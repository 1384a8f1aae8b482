import Conductor.Suspension
import Mathlib.Data.List.Basic

/-! How suspended runs go on. Between its legs other runs may change the state as they like, so that
a run that gives up control may take any of its courses: one leg from some state, the next from
another, up to its end.
-/

namespace Conductor

variable {β γ ε α δ : Type}

-----------------------------------------------------------------------------------------
-- Courses
-----------------------------------------------------------------------------------------

/-- `suspension.Goes acts value` says that what is left may come to its end with the acts and the
value, each leg from whatever state it finds.
-/
inductive Suspension.Goes : Suspension β ε α → List β → α → Prop where
  | ended (value : α) : Goes (.ended value) [] value
  | leg {leg : Run β ε Unit} {rest : ε → Suspension β ε α} {acts value} (state : ε)
    (later : (rest state).Goes acts value)
    : Goes (.paused leg rest) ((leg.trace state).acts ++ acts) value

/-- A run that may give up control may come to its end with the acts and the value. -/
def Async.Goes (async : Async β ε α) (acts : List β) (value : α) : Prop :=
  ∃ state more,
    (async.turn.trace state).value.Goes more value
    ∧ acts = (async.turn.trace state).acts ++ more

namespace Suspension.Goes

variable {suspension : Suspension β ε α} {acts : List β} {value : α}

theorem of_ended {other : α} (goes : (Suspension.ended other : Suspension β ε α).Goes acts value)
    : acts = [] ∧ value = other := by
  cases goes
  exact ⟨rfl, rfl⟩

theorem of_paused {leg : Run β ε Unit} {rest : ε → Suspension β ε α}
    (goes : (Suspension.paused leg rest).Goes acts value)
    : ∃ state more, (rest state).Goes more value ∧ acts = (leg.trace state).acts ++ more := by
  cases goes with
  | leg state later => exact ⟨state, _, later, rfl⟩

theorem of_ofTurn {turn : Run β ε (Suspension β ε α)}
    (goes : (Suspension.ofTurn turn).Goes acts value)
    : (Async.mk turn).Goes acts value := by
  obtain ⟨state, more, later, rfl⟩ := goes.of_paused
  exact ⟨state, more, later, rfl⟩

/-- With nothing beside it, what is left takes one of its courses, by induction on it. -/
theorem finish (suspension : Suspension β ε α) (state : ε)
    : suspension.Goes (suspension.finish.trace state).acts
        (suspension.finish.trace state).value := by
  induction suspension generalizing state with
  | ended value => exact .ended value
  | paused leg rest ih => exact .leg state (ih state (leg.trace state).state)

/-- A course of what is left and of what follows it is a course of the first and then one of the
second, by induction on what is left.
-/
theorem of_andThen {next : α → Async β ε δ} {value : δ}
    (goes : (suspension.andThen next).Goes acts value)
    : ∃ first mid second,
        suspension.Goes first mid ∧ (next mid).Goes second value ∧ acts = first ++ second := by
  induction suspension generalizing acts with
  | ended mid => exact ⟨[], mid, acts, .ended mid, goes, rfl⟩
  | paused leg rest ih =>
      obtain ⟨_, _, turned, rfl⟩ := goes
      obtain ⟨state, more, later, rfl⟩ := turned.of_ofTurn
      obtain ⟨first, mid, second, before, followed, split⟩ :=
        ih state ⟨(leg.trace state).state, more, later, rfl⟩
      refine ⟨_, mid, second, .leg state before, followed, ?_⟩
      calc (leg.trace state).acts
            ++ (((rest state).andThen next).turn.trace (leg.trace state).state).acts ++ more
        _ = (leg.trace state).acts ++ (first ++ second) := by rw [← split, List.append_assoc]
        _ = ((leg.trace state).acts ++ first) ++ second := (List.append_assoc _ _ _).symm

/-- A course of what is left with mapped acts is a course of what is left, by induction on it. -/
theorem of_mapActs {f : β → γ} {acts : List γ} (goes : (suspension.mapActs f).Goes acts value)
    : ∃ own, suspension.Goes own value ∧ acts = own.map f := by
  induction suspension generalizing acts with
  | ended other =>
      obtain ⟨rfl, rfl⟩ := goes.of_ended
      exact ⟨[], .ended value, rfl⟩
  | paused leg rest ih =>
      obtain ⟨state, more, later, rfl⟩ := goes.of_paused
      obtain ⟨own, taken, rfl⟩ := ih state later
      exact ⟨_, .leg state taken, by simp⟩

end Suspension.Goes

namespace Async.Goes

variable {async : Async β ε α} {acts : List β} {value : α}

theorem of_pure {other : α} (goes : (pure other : Async β ε α).Goes acts value)
    : acts = [] ∧ value = other := by
  obtain ⟨_, _, later, rfl⟩ := goes
  exact later.of_ended

/-- A course of a run in two parts is a course of the first and then one of the second. -/
theorem of_bind {first : Async β ε α} {next : α → Async β ε δ} {value : δ}
    (goes : (first >>= next).Goes acts value)
    : ∃ before mid after,
        first.Goes before mid ∧ (next mid).Goes after value ∧ acts = before ++ after := by
  obtain ⟨state, more, later, rfl⟩ := goes
  rw [turn_bind, Run.trace_bind] at later ⊢
  obtain ⟨before, mid, after, taken, followed, split⟩ :=
    Suspension.Goes.of_andThen ⟨(first.turn.trace state).state, more, later, rfl⟩
  refine ⟨_, mid, after, ⟨state, before, taken, rfl⟩, followed, ?_⟩
  rw [Trace.behind_acts, List.append_assoc, split, List.append_assoc]

/-- A run that keeps control goes as it goes from some state. -/
theorem of_ofRun {run : Run β ε α} (goes : (ofRun run).Goes acts value)
    : ∃ state, acts = (run.trace state).acts ∧ value = (run.trace state).value := by
  obtain ⟨state, more, later, rfl⟩ := goes
  rw [turn_ofRun, Run.trace_map] at later ⊢
  obtain ⟨rfl, rfl⟩ := later.of_ended
  exact ⟨state, List.append_nil _, rfl⟩

theorem of_act {b : β} {value : Unit} (goes : (act b : Async β ε Unit).Goes acts value)
    : acts = [b] := by
  obtain ⟨_, acts, _⟩ := goes.of_ofRun
  exact acts

theorem of_pause {value : Unit} (goes : (pause : Async β ε Unit).Goes acts value) : acts = [] := by
  obtain ⟨_, _, later, rfl⟩ := goes
  obtain ⟨_, _, later, rfl⟩ := later.of_paused
  exact later.of_ended.1

/-- Giving up control does nothing, by induction on how often that is done. -/
theorem of_pauses {count : Nat} {value : Unit}
    (goes : (pauses count : Async β ε Unit).Goes acts value)
    : acts = [] := by
  induction count generalizing acts with
  | zero => exact goes.of_pure.1
  | succ count ih =>
      obtain ⟨_, _, _, paused, more, rfl⟩ := goes.of_bind
      rw [paused.of_pause, ih more, List.nil_append]

theorem of_mapActs {f : β → γ} {acts : List γ} (goes : (async.mapActs f).Goes acts value)
    : ∃ own, async.Goes own value ∧ acts = own.map f := by
  obtain ⟨state, more, later, rfl⟩ := goes
  rw [turn_mapActs, Run.trace_map] at later ⊢
  obtain ⟨own, taken, rfl⟩ := later.of_mapActs
  exact ⟨_, ⟨state, own, taken, rfl⟩, by simp⟩

/-- With nothing beside it, a run takes one of its courses. -/
theorem alone (async : Async β ε α) (state : ε)
    : async.Goes (async.alone.trace state).acts (async.alone.trace state).value :=
  ⟨state, _, Suspension.Goes.finish _ _, rfl⟩

end Async.Goes

-----------------------------------------------------------------------------------------
-- What all courses have in common
-----------------------------------------------------------------------------------------

/-- On every course of what is left all acts satisfy `Q`, and the value satisfies `P`. -/
def Suspension.Within (Q : β → Prop) (P : α → Prop) (suspension : Suspension β ε α) : Prop :=
  ∀ acts value, suspension.Goes acts value → (∀ act ∈ acts, Q act) ∧ P value

/-- On every course of a run all acts satisfy `Q`, and the value satisfies `P`. -/
def Async.Within (Q : β → Prop) (P : α → Prop) (async : Async β ε α) : Prop :=
  ∀ acts value, async.Goes acts value → (∀ act ∈ acts, Q act) ∧ P value

namespace Suspension.Within

variable {Q : β → Prop} {P : α → Prop} {now : Run β ε Unit} {later : ε → Suspension β ε α}

theorem of_ended {value : α} (within : (ended value : Suspension β ε α).Within Q P) : P value :=
  (within [] value (.ended value)).2

/-- The next leg is part of some course. -/
theorem leg (within : (paused now later).Within Q P) (state : ε)
    : ∀ act ∈ (now.trace state).acts, Q act := by
  have course := Goes.finish (later state) state
  exact fun act member => (within _ _ (.leg state course)).1 act (List.mem_append_left _ member)

/-- The courses of what is left behind the next leg end courses of what is left before it. -/
theorem rest (within : (paused now later).Within Q P) (state : ε) : (later state).Within Q P := by
  intro acts value goes
  obtain ⟨all, last⟩ := within _ _ (.leg state goes)
  exact ⟨fun act member => all act (List.mem_append_right _ member), last⟩

end Suspension.Within

namespace Async.Within

variable {Q : β → Prop} {P : α → Prop} {async : Async β ε α}

theorem pure {value : α} (holds : P value) : (pure value : Async β ε α).Within Q P := by
  intro acts other goes
  obtain ⟨rfl, rfl⟩ := goes.of_pure
  exact ⟨List.forall_mem_nil _, holds⟩

theorem imp {Q' : β → Prop} (within : async.Within Q P) (weaker : ∀ act, Q act → Q' act)
    : async.Within Q' P := by
  intro acts value goes
  obtain ⟨all, holds⟩ := within acts value goes
  exact ⟨fun act member => weaker act (all act member), holds⟩

theorem turn (within : async.Within Q P) (state : ε)
    : ∀ act ∈ (async.turn.trace state).acts, Q act := by
  have course := Suspension.Goes.finish (async.turn.trace state).value state
  exact fun act member => (within _ _ ⟨state, _, course, rfl⟩).1 act (List.mem_append_left _ member)

theorem left (within : async.Within Q P) (state : ε)
    : (async.turn.trace state).value.Within Q P := by
  intro acts value goes
  obtain ⟨all, last⟩ := within _ _ ⟨state, _, goes, rfl⟩
  exact ⟨fun act member => all act (List.mem_append_right _ member), last⟩

end Async.Within

end Conductor
