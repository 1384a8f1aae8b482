import Conductor.Proofs.History
import Conductor.Work.Group

/-! Kinds of runs that are closed under going on. A kind that holds of the starts and the ends of
units of work holds of all that is made of these, together or in sequence.
-/

namespace Conductor

variable {ε α β : Type}

/-- A kind of runs, whatever their values. -/
abbrev Run.Kind (ε : Type) := ∀ α : Type, Run Act ε α → Prop

/-- A kind of runs is closed if it holds of those that do nothing, of one that goes on from another
of the kind with runs of the kind, and of one that hangs on the state that it finds. Only values
that the first comes to have to be gone on from.
-/
structure Run.Kind.Closed (kind : Run.Kind ε) : Prop where
  pure : ∀ {α : Type} (value : α), kind α (pure value)
  bind
    : ∀ {α β : Type} {first : Run Act ε α} {next : α → Run Act ε β},
        kind α first
        → (∀ state, kind β (next (first.trace state).value))
        → kind β (first >>= next)
  inState
    : ∀ {α : Type} {next : ε → Run Act ε α}, (∀ state, kind α (next state)) → kind α (.inState next)

/-- What is left is of a kind if each leg is, from wherever it may be gone. -/
def Suspension.IsOf (kind : Run.Kind ε) : Suspension Act ε α → Prop
  | .ended _ => True
  | .paused leg rest => kind _ leg ∧ ∀ state, (rest state).IsOf kind

/-- A run that may give up control is of a kind if its first turn is and all legs behind it are. -/
structure Async.IsOf (kind : Run.Kind ε) (async : Async Act ε α) : Prop where
  turn : kind _ async.turn
  left : ∀ state, (async.turn.trace state).value.IsOf kind

abbrev UnitOfWork.IsOf (kind : Run.Kind ε) (unit : UnitOfWork ε) : Prop :=
  unit.work.IsOf kind

/-- An attempt is of a kind as the run that it is. -/
def Attempt.IsOf (attempt : Attempt ε α) (kind : Run.Kind ε) : Prop :=
  kind _ attempt.run

/-- What is left is of two kinds at once, by induction on it. -/
theorem Suspension.IsOf.and {kind kind' : Run.Kind ε} {suspension : Suspension Act ε α}
    (each : suspension.IsOf kind) (each' : suspension.IsOf kind')
    : suspension.IsOf fun α run => kind α run ∧ kind' α run := by
  induction suspension with
  | ended value => trivial
  | paused leg rest ih =>
    exact ⟨⟨each.1, each'.1⟩, fun state => ih state (each.2 state) (each'.2 state)⟩

theorem Async.IsOf.and {kind kind' : Run.Kind ε} {async : Async Act ε α} (each : async.IsOf kind)
    (each' : async.IsOf kind')
    : async.IsOf fun α run => kind α run ∧ kind' α run :=
  ⟨⟨each.turn, each'.turn⟩, fun state => (each.left state).and (each'.left state)⟩

section Kind

variable {kind : Run.Kind ε} (closed : kind.Closed)

include closed

-----------------------------------------------------------------------------------------
-- Turns
-----------------------------------------------------------------------------------------

/-- What is left is brought to its end by a run of the kind, by induction on it. -/
theorem Suspension.IsOf.finish {suspension : Suspension Act ε α} (each : suspension.IsOf kind)
    : kind _ suspension.finish := by
  induction suspension with
  | ended value => exact closed.pure value
  | paused leg rest ih =>
      obtain ⟨next, later⟩ := each
      have both : kind α (.inState fun state => leg >>= fun _ => (rest state).finish) :=
        closed.inState fun state => closed.bind next fun _ => ih state (later state)
      exact both

/-- What is left behind the turn of a run of the kind is of the kind before that turn. -/
theorem Suspension.IsOf.ofTurn {turn : Run Act ε (Suspension Act ε α)}
    (each : (Async.mk turn).IsOf kind)
    : (Suspension.ofTurn turn).IsOf kind := by
  have leg : (turn >>= fun _ => pure ())
      = (fun state =>
          ⟨(), (turn.trace state).state, (turn.trace state).acts⟩ : Run Act ε Unit) := by
    funext state
    have both := Run.trace_bind turn (fun _ => pure ()) state
    simp only [Run.trace_pure, Trace.behind, List.append_nil] at both
    exact both
  exact ⟨leg ▸ closed.bind each.turn fun _ => closed.pure (), each.left⟩

/-- What follows what is left is of the kind if it is so behind all courses, by induction on what is
left.
-/
theorem Suspension.IsOf.andThen {suspension : Suspension Act ε α} {next : α → Async Act ε β}
    (each : suspension.IsOf kind)
    (after : ∀ acts value, suspension.Goes acts value → (next value).IsOf kind)
    : (suspension.andThen next).IsOf kind := by
  induction suspension with
  | ended value => exact after [] value (.ended value)
  | paused leg rest ih =>
      obtain ⟨now, later⟩ := each
      have going := fun state => ih state (later state) fun acts value goes =>
        after _ value (.leg state goes)
      let onward : Run Act ε (Suspension Act ε β) :=
        .inState fun state => leg >>= fun _ => ((rest state).andThen next).turn
      have turn : kind _ onward :=
        closed.inState fun state => closed.bind now fun _ => (going state).turn
      have left : (Async.mk onward).IsOf kind :=
        ⟨turn, fun state => (going state).left (leg.trace state).state⟩
      exact ⟨closed.pure _, fun _ => .ofTurn closed left⟩

namespace Async.IsOf

theorem pure (value : α) : (pure value : Async Act ε α).IsOf kind where
  turn := closed.pure _
  left _ := trivial

/-- A run that keeps control is of the kind as it is without giving up control. -/
theorem ofRun {run : Run Act ε α} (each : kind _ run) : (Async.ofRun run).IsOf kind where
  turn := by
    rw [turn_ofRun, map_eq_pure_bind]
    exact closed.bind each fun _ => closed.pure _
  left state := by
    rw [turn_ofRun, Run.trace_map]
    trivial

theorem pause : (pause : Async Act ε Unit).IsOf kind where
  turn := closed.pure _
  left _ := ⟨closed.pure _, fun _ => trivial⟩

/-- A run in two parts is of the kind if the second is so behind all courses of the first. -/
theorem bind {first : Async Act ε α} {next : α → Async Act ε β} (before : first.IsOf kind)
    (after : ∀ acts value, first.Goes acts value → (next value).IsOf kind)
    : (first >>= next).IsOf kind := by
  have followed : ∀ state, ((first.turn.trace state).value.andThen next).IsOf kind := fun state =>
    (before.left state).andThen closed fun acts value goes => after _ value ⟨state, acts, goes, rfl⟩
  exact ⟨closed.bind before.turn fun state => (followed state).turn,
    fun state => (followed state).left _⟩

end Async.IsOf

/-- Alone, a run of the kind is of the kind. -/
theorem Async.IsOf.alone {async : Async Act ε α} (each : async.IsOf kind) : kind _ async.alone :=
  closed.bind each.turn fun state => (each.left state).finish closed

/-- Units are started by a run of the kind, and leave units waiting that are of the kind, by
induction on the units.
-/
theorem startAll_isOf {units : List (UnitOfWork ε)} (each : ∀ unit ∈ units, unit.IsOf kind)
    (place : Nat) (progress : Progress)
    : kind _ (startAll place progress units)
      ∧ ∀ state,
          ∀ waiting ∈ ((startAll place progress units).trace state).value.2,
            waiting.left.IsOf kind := by
  induction units generalizing place progress with
  | nil => exact ⟨closed.pure _, nofun⟩
  | cons unit rest ih =>
      obtain ⟨first, others⟩ := List.forall_mem_cons.mp each
      refine ⟨closed.bind first.turn fun state => ?_, fun state => ?_⟩
      · split
        · exact (ih others _ _).1
        · exact closed.bind (ih others _ _).1 fun _ => closed.pure _
      · have later := first.left state
        cases left : (unit.work.turn.trace state).value with
        | ended outcome =>
            rw [startAll_ended left]
            exact (ih others _ _).2 _
        | paused leg next =>
            rw [left] at later
            rw [startAll_paused left]
            exact List.forall_mem_cons.mpr ⟨later, (ih others _ _).2 _⟩

/-- Turns of units that are of the kind are of the kind, by induction on the turns. -/
theorem takeTurns_isOf (schedule : Schedule) (count : Nat) (progress : Progress)
    (waiting : List (Waiting ε)) (each : ∀ unit ∈ waiting, unit.left.IsOf kind)
    : kind _ (takeTurns schedule count progress waiting) := by
  induction count, progress, waiting using turns_induction schedule with
  | none count progress =>
      rw [takeTurns_nil]
      exact closed.pure progress
  | next count progress first rest picked turn dropped again =>
      obtain ⟨⟨leg, later⟩, others⟩ := takeOut_forall (schedule count % (rest.length + 1)) each
      rw [takeTurns_eq, nextTurn]
      split
      · exact dropped progress others
      · refine closed.inState fun state => closed.bind leg fun _ => ?_
        split
        next outcome ended => exact dropped _ others
        next leg next paused =>
          refine again state leg next paused fun unit member => ?_
          rcases List.mem_append.mp member with member | member
          · exact others unit member
          · have left : (Suspension.paused leg next).IsOf kind := paused ▸ later state
            rw [List.mem_singleton.mp member]
            exact left

/-- Units of the kind that run together are a run of the kind. -/
theorem runTogether_isOf (schedule : Schedule) {units : List (UnitOfWork ε)}
    (each : ∀ unit ∈ units, unit.IsOf kind)
    : kind _ (runTogether schedule units) := by
  obtain ⟨starting, waiting⟩ := startAll_isOf closed each 0 {}
  exact closed.bind starting fun state => takeTurns_isOf closed schedule 0 _ _ (waiting state)

-----------------------------------------------------------------------------------------
-- Attempts
-----------------------------------------------------------------------------------------

namespace Attempt.IsOf

theorem pure (value : α) : (pure value : Attempt ε α).IsOf kind :=
  closed.pure _

theorem throw (fault : Fault) : (throw fault : Attempt ε α).IsOf kind :=
  closed.pure _

theorem liftExcept (result : Except Fault α) : (liftM result : Attempt ε α).IsOf kind :=
  closed.pure _

theorem liftM {run : Run Act ε α} (each : kind _ run) : (liftM run : Attempt ε α).IsOf kind :=
  closed.bind each fun _ => closed.pure _

/-- An attempt goes on only from a value that it comes to. -/
theorem bind {first : Attempt ε α} {next : α → Attempt ε β} (before : first.IsOf kind)
    (after : ∀ state value, (first.trace state).value = .ok value → (next value).IsOf kind)
    : (first >>= next).IsOf kind := by
  unfold IsOf at *
  rw [ExceptT.run_bind]
  refine closed.bind before fun state => ?_
  have value : (Run.trace first.run state).value = (first.trace state).value := rfl
  rw [value]
  cases ended : (first.trace state).value with
  | error fault => exact closed.pure _
  | ok value => exact after state value ended

theorem write (writing : ∀ messages, kind _ (Run.write messages)) (messages : List Message)
    : (write messages : Attempt ε Unit).IsOf kind :=
  liftM closed (writing messages)

end Attempt.IsOf

-----------------------------------------------------------------------------------------
-- Groups
-----------------------------------------------------------------------------------------

/-- A unit of the kind is settled by an attempt of the kind. -/
theorem settle_isOf {unit : UnitOfWork ε} (each : unit.IsOf kind) : (settle unit).IsOf kind := by
  refine .bind closed (.liftM closed (each.alone closed)) fun _ outcome _ => ?_
  split
  · exact .throw closed _
  · exact .pure closed _

namespace Group

/-- A group of units of the kind is of the kind, if writing messages is. -/
theorem runAll_isOf (writing : ∀ messages, kind _ (Run.write messages)) (schedule : Schedule)
    {units : List (UnitOfWork ε)} (each : ∀ unit ∈ units, unit.IsOf kind)
    : (runAll schedule units).IsOf kind := by
  unfold runAll
  split
  · exact .pure closed _
  · refine .bind closed (.write closed writing _) fun _ _ _ => ?_
    have together := runTogether_isOf closed schedule each
    refine .bind closed (.liftM closed together) fun _ progress _ => ?_
    split
    · exact .throw closed _
    · exact .bind closed (.write closed writing _) fun _ _ _ => .pure closed _

/-- A sequence of units of the kind is of the kind, by induction on the units. -/
theorem runFrom_isOf (writing : ∀ messages, kind _ (Run.write messages)) (count before : Nat)
    {units : List (UnitOfWork ε)} (each : ∀ unit ∈ units, unit.IsOf kind)
    : (runFrom count before units).IsOf kind := by
  induction units generalizing before with
  | nil => exact .pure closed _
  | cons unit rest ih =>
      obtain ⟨first, others⟩ := List.forall_mem_cons.mp each
      refine .bind closed (.write closed writing _) fun _ _ _ => ?_
      refine .bind closed (settle_isOf closed first) fun _ failure _ => ?_
      cases failure with
      | none => exact ih (before + 1) others
      | some failure =>
          dsimp only
          split
          · exact .bind closed (.write closed writing _) fun _ _ _ => .pure closed _
          · exact .pure closed _

end Group

end Kind

-----------------------------------------------------------------------------------------
-- Runs all of whose acts satisfy a predicate
-----------------------------------------------------------------------------------------

/-- The kind of runs all of whose acts satisfy a predicate. -/
def Run.Kind.every (P : Act → Prop) : Run.Kind ε := fun _ run => run.Every P

theorem Run.Kind.every_closed (P : Act → Prop) : (every P : Run.Kind ε).Closed where
  pure value := Run.Every.pure value
  bind := by
    intro α β first next before after state act member
    rw [Run.trace_bind, Trace.behind_acts] at member
    rcases List.mem_append.mp member with member | member
    · exact before state act member
    · exact after state _ act member
  inState each state := each state state

/-- Messages satisfy what is true of each of them. -/
theorem Run.Kind.every_write {P : Act → Prop} (writing : ∀ message, P (.did (.wrote message)))
    (messages : List Message)
    : (every P : Run.Kind ε) Unit (Run.write messages) := by
  intro state act member
  obtain ⟨message, _, rfl⟩ := List.mem_map.mp member
  exact writing message

theorem Run.Kind.every_act {P : Act → Prop} {act : Act} (holds : P act)
    : (every P : Run.Kind ε) Unit (Run.act act) := by
  intro state other member
  rw [List.mem_singleton.mp member]
  exact holds

/-- All acts on all courses of a run satisfy `P`. -/
abbrev Async.Every (P : Act → Prop) (async : Async Act ε α) : Prop :=
  async.Within P fun _ => True

abbrev UnitOfWork.Every (P : Act → Prop) (unit : UnitOfWork ε) : Prop :=
  unit.work.Every P

/-- What is left does only acts that satisfy `P`, leg by leg, by induction on it. -/
theorem Suspension.Within.isOf {P : Act → Prop} {suspension : Suspension Act ε α}
    (each : suspension.Within P fun _ => True)
    : suspension.IsOf (.every P) := by
  induction suspension with
  | ended value => trivial
  | paused leg rest ih => exact ⟨each.leg, fun state => ih state (each.rest state)⟩

theorem Async.Within.isOf {P : Act → Prop} {async : Async Act ε α} (each : async.Every P)
    : async.IsOf (.every P) :=
  ⟨each.turn, fun state => (each.left state).isOf⟩

/-- A unit on its own goes one of its courses. -/
theorem UnitOfWork.run_goes (unit : UnitOfWork ε) (state : ε)
    : unit.work.Goes (unit.run.trace state).acts (unit.run.trace state).value :=
  .alone unit.work state

theorem UnitOfWork.Every.run {P : Act → Prop} {unit : UnitOfWork ε} (each : unit.Every P)
    : unit.run.Every P :=
  fun state => (each _ _ (unit.run_goes state)).1

/-- A sequence does nothing but what its units do, besides writing messages. -/
theorem Group.runFrom_every {P : Act → Prop} (writing : ∀ message, P (.did (.wrote message)))
    (count before : Nat) {units : List (UnitOfWork ε)} (each : ∀ unit ∈ units, unit.Every P)
    : (runFrom count before units).Every P :=
  runFrom_isOf (Run.Kind.every_closed P) (Run.Kind.every_write writing) count before
    fun unit member => Async.Within.isOf (each unit member)

end Conductor
