/-!
Runs: what goes from one state to the next, gives a value, and leaves a record of its acts. The
acts of two runs in a row are those of the first followed by those of the second.
-/

namespace Conductor

/-- How a run went: its value, the state after it, and its acts in order. -/
structure Trace (β ε α : Type) where
  value : α
  state : ε
  acts : List β

namespace Trace

variable {β ε α : Type}

/-- A trace with acts before it. -/
def behind (acts : List β) (trace : Trace β ε α) : Trace β ε α :=
  { trace with acts := acts ++ trace.acts }

@[simp]
theorem behind_value (acts : List β) (trace : Trace β ε α)
    : (trace.behind acts).value = trace.value := rfl

@[simp]
theorem behind_state (acts : List β) (trace : Trace β ε α)
    : (trace.behind acts).state = trace.state := rfl

@[simp]
theorem behind_acts (acts : List β) (trace : Trace β ε α)
    : (trace.behind acts).acts = acts ++ trace.acts := rfl

/-- Acts before a trace with acts before it are all its acts, by associativity. -/
theorem behind_behind (first second : List β) (trace : Trace β ε α)
    : (trace.behind second).behind first = trace.behind (first ++ second) := by
  simp only [behind, List.append_assoc]

end Trace

/-- A run over states of `ε` with acts of `β`. -/
def Run (β ε α : Type) : Type := ε → Trace β ε α

namespace Run

variable {β γ ε α : Type}

instance : Monad (Run β ε) where
  pure value := fun state => ⟨value, state, []⟩
  bind first next := fun state =>
    let before := first state
    let after := next before.value before.state
    ⟨after.value, after.state, before.acts ++ after.acts⟩

/-- A run does the same whether an empty run stands before it, behind it, or how runs in a row are
grouped. Witness: lists of acts are grouped freely under concatenation.
-/
instance : LawfulMonad (Run β ε) := LawfulMonad.mk' (Run β ε)
  (fun run => by
    funext state
    simp [Functor.map, Function.comp])
  (fun value next => by
    funext state
    simp [bind, pure])
  (fun first second third => by
    funext state
    simp [bind, List.append_assoc])

def act (b : β) : Run β ε Unit :=
  fun state => ⟨(), state, [b]⟩

def acts (bs : List β) : Run β ε Unit :=
  fun state => ⟨(), state, bs⟩

/-- A change of the state without acts. -/
def change (f : ε → α × ε) : Run β ε α :=
  fun state => ⟨(f state).1, (f state).2, []⟩

/-- A run that hangs on the state that it finds. -/
def inState (next : ε → Run β ε α) : Run β ε α :=
  fun state => next state state

/-- A run with each of its acts mapped by `f`. -/
def mapActs (f : β → γ) (run : Run β ε α) : Run γ ε α :=
  fun state =>
    let trace := run state
    ⟨trace.value, trace.state, trace.acts.map f⟩

-----------------------------------------------------------------------------------------
-- Runs from a state
-----------------------------------------------------------------------------------------

def trace (run : Run β ε α) (state : ε) : Trace β ε α :=
  run state

@[simp]
theorem trace_pure (value : α) (state : ε)
    : (pure value : Run β ε α).trace state = ⟨value, state, []⟩ := rfl

@[simp]
theorem trace_bind {δ : Type} (first : Run β ε α) (next : α → Run β ε δ) (state : ε)
    : (first >>= next).trace state
      = ((next (first.trace state).value).trace (first.trace state).state).behind
          (first.trace state).acts := rfl

@[simp]
theorem trace_map {δ : Type} (f : α → δ) (run : Run β ε α) (state : ε)
    : (f <$> run).trace state
      = ⟨f (run.trace state).value, (run.trace state).state, (run.trace state).acts⟩ := by
  rw [map_eq_pure_bind, trace_bind]
  simp only [trace_pure, Trace.behind, List.append_nil]

@[simp]
theorem trace_act (b : β) (state : ε)
    : (act b : Run β ε Unit).trace state = ⟨(), state, [b]⟩ := rfl

@[simp]
theorem trace_acts (bs : List β) (state : ε)
    : (acts bs : Run β ε Unit).trace state = ⟨(), state, bs⟩ := rfl

@[simp]
theorem trace_change (f : ε → α × ε) (state : ε)
    : (change f : Run β ε α).trace state = ⟨(f state).1, (f state).2, []⟩ := rfl

@[simp]
theorem trace_inState (next : ε → Run β ε α) (state : ε)
    : (inState next).trace state = (next state).trace state := rfl

@[simp]
theorem trace_mapActs (f : β → γ) (run : Run β ε α) (state : ε)
    : (run.mapActs f).trace state
      = ⟨(run.trace state).value, (run.trace state).state, (run.trace state).acts.map f⟩ := rfl

/-- Runs with the same traces are the same. -/
theorem ext {run run' : Run β ε α} (same : ∀ state, run.trace state = run'.trace state)
    : run = run' :=
  funext same

@[simp]
theorem mapActs_act (f : β → γ) (b : β) : (act b : Run β ε Unit).mapActs f = act (f b) := rfl

@[simp]
theorem mapActs_change (f : β → γ) (next : ε → α × ε)
    : (change next : Run β ε α).mapActs f = change next := rfl

-----------------------------------------------------------------------------------------
-- Runs all of whose acts are of a kind
-----------------------------------------------------------------------------------------

/-- From every state all acts of the run satisfy `P`. -/
def Every (P : β → Prop) (run : Run β ε α) : Prop :=
  ∀ state, ∀ act ∈ (run.trace state).acts, P act

theorem Every.pure {P : β → Prop} (value : α) : (pure value : Run β ε α).Every P := by
  intro state act member
  exact absurd member List.not_mem_nil

end Run

end Conductor
