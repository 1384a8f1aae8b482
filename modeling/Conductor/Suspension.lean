import Conductor.Run

/-!
Runs that give up control on their way. What is left of such a run is suspended, and goes on when
it is given control again, from whatever state it then finds. However often it gives up control, it
comes to an end.
-/

namespace Conductor

/-- What is left of a run that may have given up control: the value that it has ended with, or the
leg that it goes once it has control again, and what is left behind that leg, which hangs on the
state that it finds.
-/
inductive Suspension (β ε α : Type) where
  | ended (value : α)
  | paused (leg : Run β ε Unit) (rest : ε → Suspension β ε α)

/-- A run that may give up control before it ends: its first turn, and what is left behind it. -/
structure Async (β ε α : Type) where
  turn : Run β ε (Suspension β ε α)

namespace Suspension

variable {β γ ε α δ : Type}

/-- Gives control to what is left, until it ends or gives up control again. -/
def resume : Suspension β ε α → Run β ε (Suspension β ε α)
  | .ended value => pure (.ended value)
  | .paused leg rest => fun state =>
    ⟨rest state, (leg.trace state).state, (leg.trace state).acts⟩

/-- What is left of a run that gives up control before it does anything. -/
def ofTurn (turn : Run β ε (Suspension β ε α)) : Suspension β ε α :=
  .paused (fun state => ⟨(), (turn.trace state).state, (turn.trace state).acts⟩)
    fun state => (turn.trace state).value

/-- Goes on from the value, in the turn in which it comes. -/
def andThen (next : α → Async β ε δ) : Suspension β ε α → Async β ε δ
  | .ended value => next value
  | .paused leg rest =>
    ⟨pure (ofTurn fun state =>
      (((rest state).andThen next).turn.trace (leg.trace state).state).behind
        (leg.trace state).acts)⟩

/-- Gives control to what is left until it ends. -/
def finish : Suspension β ε α → Run β ε α
  | .ended value => pure value
  | .paused leg rest => fun state =>
    ((rest state).finish.trace (leg.trace state).state).behind (leg.trace state).acts

/-- The value with which it has ended. -/
def value? : Suspension β ε α → Option α
  | .ended value => some value
  | .paused _ _ => none

def mapActs (f : β → γ) : Suspension β ε α → Suspension γ ε α
  | .ended value => .ended value
  | .paused leg rest => .paused (leg.mapActs f) fun state => (rest state).mapActs f

end Suspension

namespace Async

variable {β γ ε α δ : Type}

instance : Monad (Async β ε) where
  pure value := ⟨pure (.ended value)⟩
  bind first next := ⟨first.turn >>= fun suspension => (suspension.andThen next).turn⟩

/-- A run that keeps control until it ends. -/
def ofRun (run : Run β ε α) : Async β ε α :=
  ⟨Suspension.ended <$> run⟩

abbrev act (b : β) : Async β ε Unit :=
  ofRun (Run.act b)

/-- Gives up control once. -/
def pause : Async β ε Unit :=
  ⟨pure (.paused (pure ()) fun _ => .ended ())⟩

/-- Gives up control a number of times. -/
def pauses : Nat → Async β ε Unit
  | 0 => pure ()
  | count + 1 => do
    pause
    pauses count

/-- The run with nothing beside it: it gets control back whenever it gives it up. -/
def alone (async : Async β ε α) : Run β ε α := do
  let suspension ← async.turn
  suspension.finish

/-- A run with each of its acts mapped by `f`. -/
def mapActs (f : β → γ) (async : Async β ε α) : Async γ ε α :=
  ⟨Suspension.mapActs f <$> async.turn.mapActs f⟩

end Async

-----------------------------------------------------------------------------------------
-- First turns
-----------------------------------------------------------------------------------------

namespace Suspension

variable {β γ ε α δ : Type}

@[simp]
theorem trace_resume_paused (leg : Run β ε Unit) (rest : ε → Suspension β ε α) (state : ε)
    : (paused leg rest).resume.trace state
      = ⟨rest state, (leg.trace state).state, (leg.trace state).acts⟩ := rfl

@[simp]
theorem resume_ofTurn (turn : Run β ε (Suspension β ε α)) : (ofTurn turn).resume = turn := rfl

@[simp]
theorem andThen_ended (value : α) (next : α → Async β ε δ)
    : (ended value : Suspension β ε α).andThen next = next value := rfl

@[simp]
theorem trace_finish_paused (leg : Run β ε Unit) (rest : ε → Suspension β ε α) (state : ε)
    : (paused leg rest).finish.trace state
      = ((rest state).finish.trace (leg.trace state).state).behind (leg.trace state).acts := rfl

@[simp]
theorem trace_finish_ofTurn (turn : Run β ε (Suspension β ε α)) (state : ε)
    : (ofTurn turn).finish.trace state
      = ((turn.trace state).value.finish.trace (turn.trace state).state).behind
          (turn.trace state).acts := rfl

end Suspension

namespace Async

variable {β γ ε α δ : Type}

@[simp]
theorem turn_pure (value : α) : (pure value : Async β ε α).turn = pure (.ended value) := rfl

/-- A run in two parts starts with the first, and goes on with the second once the first has ended.
-/
@[simp]
theorem turn_bind (first : Async β ε α) (next : α → Async β ε δ)
    : (first >>= next).turn
      = first.turn >>= fun suspension => (suspension.andThen next).turn := rfl

@[simp]
theorem turn_ofRun (run : Run β ε α)
    : (ofRun run).turn = Suspension.ended <$> run := rfl

@[simp]
theorem turn_mapActs (f : β → γ) (async : Async β ε α)
    : (async.mapActs f).turn = Suspension.mapActs f <$> async.turn.mapActs f := rfl

/-- What follows a run that keeps control follows in the same turn. -/
@[simp]
theorem turn_ofRun_bind (run : Run β ε α) (next : α → Async β ε δ)
    : (ofRun run >>= next).turn = run >>= fun value => (next value).turn := by
  rw [turn_bind, turn_ofRun, map_eq_pure_bind, bind_assoc]
  rfl

/-- What follows a pause is left behind it. -/
@[simp]
theorem turn_pause_bind (next : Unit → Async β ε δ)
    : ((pause : Async β ε Unit) >>= next).turn = pure (.ofTurn (next ()).turn) := rfl

-----------------------------------------------------------------------------------------
-- Runs with nothing beside them
-----------------------------------------------------------------------------------------

/-- Alone, a run goes through its first turn and then to the end of what is left. -/
theorem trace_alone (async : Async β ε α) (state : ε)
    : async.alone.trace state
      = ((async.turn.trace state).value.finish.trace (async.turn.trace state).state).behind
          (async.turn.trace state).acts := rfl

@[simp]
theorem alone_pure (value : α) : (pure value : Async β ε α).alone = pure value := rfl

/-- What is left and what follows it go on alone as parts in a row.
Witness: induction on what is left; the next leg stands in front of both sides.
-/
theorem alone_andThen (suspension : Suspension β ε α) (next : α → Async β ε δ)
    : (suspension.andThen next).alone = suspension.finish >>= fun value => (next value).alone := by
  induction suspension with
  | ended value => rfl
  | paused leg rest ih =>
    funext state
    let now := leg.trace state
    let later := ((rest state).andThen next).turn.trace now.state
    calc ((Suspension.paused leg rest).andThen next).alone.trace state
      _ = (later.value.finish.trace later.state).behind (now.acts ++ later.acts) := rfl
      _ = (((rest state).andThen next).alone.trace now.state).behind now.acts :=
        (Trace.behind_behind _ _ _).symm
      _ = (((rest state).finish >>= fun value => (next value).alone).trace now.state).behind
            now.acts := by rw [ih state]
      _ = ((Suspension.paused leg rest).finish >>= fun value => (next value).alone).trace state :=
        Trace.behind_behind _ _ _

/-- Alone, a run in two parts is its parts in a row. -/
@[simp]
theorem alone_bind (first : Async β ε α) (next : α → Async β ε δ)
    : (first >>= next).alone = first.alone >>= fun value => (next value).alone := by
  simp only [alone, turn_bind, bind_assoc]
  refine congrArg _ (funext fun suspension => ?_)
  exact alone_andThen suspension next

/-- Alone, a run that keeps control is what it is. -/
@[simp]
theorem alone_ofRun (run : Run β ε α) : (ofRun run : Async β ε α).alone = run := by
  simp only [alone, turn_ofRun, map_eq_pure_bind, bind_assoc, pure_bind]
  exact bind_pure run

@[simp]
theorem alone_pause : (pause : Async β ε Unit).alone = pure () := rfl

end Async

-----------------------------------------------------------------------------------------
-- Runs in a row
-----------------------------------------------------------------------------------------

section Lawful

variable {β ε α δ ζ : Type}

/-- Nothing follows what is left if only its value is given back, by induction on what is left. -/
theorem Suspension.andThen_pure (suspension : Suspension β ε α)
    : (suspension.andThen pure).turn = pure suspension := by
  induction suspension with
  | ended value => rfl
  | paused leg rest ih =>
    have turn (state : ε)
        : (((rest state).andThen pure).turn.trace (leg.trace state).state).behind
            (leg.trace state).acts
          = ⟨rest state, (leg.trace state).state, (leg.trace state).acts⟩ := by
      rw [ih state]
      simp [Trace.behind]
    simp only [andThen, turn]
    rfl

/-- What follows in two parts follows what is left in a row, by induction on what is left. -/
theorem Suspension.andThen_bind (suspension : Suspension β ε α) (second : α → Async β ε δ)
    (third : δ → Async β ε ζ)
    : (suspension.andThen second >>= third).turn
      = (suspension.andThen fun value => second value >>= third).turn := by
  induction suspension with
  | ended value => rfl
  | paused leg rest ih =>
    refine congrArg (fun turn => (pure (ofTurn turn) : Run β ε (Suspension β ε ζ)))
      (Run.ext fun state => ?_)
    have later := congrArg (fun turn => (turn.trace (leg.trace state).state).behind
      (leg.trace state).acts) (ih state)
    refine Eq.trans ?_ later
    simp only [Async.turn_bind, Run.trace_bind]
    exact (Trace.behind_behind _ _ _).symm

/-- A run that may give up control does the same however runs in a row are grouped, and whether an
empty run stands before it or behind it.
-/
instance : LawfulMonad (Async β ε) := LawfulMonad.mk' (Async β ε)
  (fun async => by
    have turned
      : async.turn >>= (fun suspension => (suspension.andThen pure).turn) = async.turn := by
      simp only [Suspension.andThen_pure, bind_pure]
    exact congrArg Async.mk turned)
  (fun value next => by
    have turned : (pure value >>= next : Async β ε _).turn = (next value).turn := by
      rw [Async.turn_bind, Async.turn_pure, pure_bind, Suspension.andThen_ended]
    exact congrArg Async.mk turned)
  (fun first second third => by
    have turned : (first >>= second >>= third).turn
        = (first >>= fun value => second value >>= third).turn := by
      simp only [Async.turn_bind, bind_assoc, ← Suspension.andThen_bind]
    exact congrArg Async.mk turned)

/-- Runs in a row that keep control are one run that does. -/
theorem Async.ofRun_bind (first : Run β ε α) (next : α → Run β ε δ)
    : (ofRun first >>= fun value => ofRun (next value)) = ofRun (first >>= next) := by
  have turned
    : (ofRun first >>= fun value => ofRun (next value)).turn = (ofRun (first >>= next)).turn := by
    simp only [turn_ofRun_bind, turn_ofRun, map_bind]
  exact congrArg Async.mk turned

@[simp]
theorem Async.alone_map (f : α → δ) (async : Async β ε α)
    : (f <$> async).alone = f <$> async.alone := by
  simp only [map_eq_pure_bind, alone_bind, alone_pure]

end Lawful

-----------------------------------------------------------------------------------------
-- Mapped acts
-----------------------------------------------------------------------------------------

section MapActs

variable {β γ ε α δ : Type}

theorem Suspension.mapActs_ofTurn (f : β → γ) (turn : Run β ε (Suspension β ε α))
    : (ofTurn turn).mapActs f = ofTurn (Suspension.mapActs f <$> turn.mapActs f) := by
  simp only [ofTurn, mapActs, Run.trace_map, Run.trace_mapActs]
  rfl

/-- What follows what is left follows it with mapped acts, by induction on what is left. -/
theorem Suspension.mapActs_andThen (f : β → γ) (suspension : Suspension β ε α)
    (next : α → Async β ε δ)
    : (suspension.andThen next).mapActs f
      = (suspension.mapActs f).andThen fun value => (next value).mapActs f := by
  induction suspension with
  | ended value => rfl
  | paused leg rest ih =>
    let turn : Run β ε (Suspension β ε δ) := fun state =>
      (((rest state).andThen next).turn.trace (leg.trace state).state).behind (leg.trace state).acts
    have mapped
      : Suspension.mapActs f <$> turn.mapActs f
        = fun state =>
            ((((rest state).mapActs f).andThen fun value => (next value).mapActs f).turn.trace
              (leg.trace state).state).behind ((leg.trace state).acts.map f) := by
      refine Run.ext fun state => ?_
      have first : turn.trace state
          = (((rest state).andThen next).turn.trace (leg.trace state).state).behind
              (leg.trace state).acts := rfl
      rw [Run.trace_map, Run.trace_mapActs, first]
      change _ = Trace.behind _ (Run.trace _ _)
      rw [← ih state, Async.turn_mapActs, Run.trace_map, Run.trace_mapActs]
      simp [Trace.behind]
    calc ((Suspension.paused leg rest).andThen next).mapActs f
      _ = ⟨pure ((ofTurn turn).mapActs f)⟩ := rfl
      _ = ⟨pure (ofTurn (Suspension.mapActs f <$> turn.mapActs f))⟩ := by rw [mapActs_ofTurn]
      _ = ((Suspension.paused leg rest).mapActs f).andThen fun value => (next value).mapActs f := by
        rw [mapped]
        rfl

namespace Async

@[simp]
theorem mapActs_pure (f : β → γ) (value : α)
    : (pure value : Async β ε α).mapActs f = pure value := rfl

@[simp]
theorem mapActs_ofRun (f : β → γ) (run : Run β ε α)
    : (ofRun run : Async β ε α).mapActs f = ofRun (run.mapActs f) := by
  refine congrArg Async.mk (Run.ext fun state => ?_)
  simp only [turn_ofRun, Run.trace_map, Run.trace_mapActs]
  rfl

@[simp]
theorem mapActs_pause (f : β → γ) : (pause : Async β ε Unit).mapActs f = pause := rfl

/-- A run in two parts with mapped acts is its parts with mapped acts, in a row. -/
@[simp]
theorem mapActs_bind (f : β → γ) (first : Async β ε α) (next : α → Async β ε δ)
    : (first >>= next).mapActs f = first.mapActs f >>= fun value => (next value).mapActs f := by
  refine congrArg Async.mk (Run.ext fun state => ?_)
  have later := congrArg Async.turn
    (Suspension.mapActs_andThen f (first.turn.trace state).value next)
  simp only [turn_bind, turn_mapActs, Run.trace_map, Run.trace_mapActs, Run.trace_bind, ← later]
  simp [Trace.behind]

end Async

/-- What is left goes on alone with mapped acts as it goes on alone, by induction on it. -/
theorem Suspension.finish_mapActs (f : β → γ) (suspension : Suspension β ε α)
    : (suspension.mapActs f).finish = suspension.finish.mapActs f := by
  induction suspension with
  | ended value => rfl
  | paused leg rest ih =>
    funext state
    let now := leg.trace state
    calc ((paused leg rest).mapActs f).finish.trace state
      _ = (((rest state).mapActs f).finish.trace now.state).behind (now.acts.map f) := rfl
      _ = (((rest state).finish.mapActs f).trace now.state).behind (now.acts.map f) := by
        rw [ih state]
      _ = ((paused leg rest).finish.mapActs f).trace state := by
        simp [Trace.behind, now]

@[simp]
theorem Async.alone_mapActs (f : β → γ) (async : Async β ε α)
    : (async.mapActs f).alone = async.alone.mapActs f := by
  funext state
  have both : (async.mapActs f).alone.trace state = (async.alone.mapActs f).trace state := by
    simp [trace_alone, Suspension.finish_mapActs, Trace.behind]
  exact both

end MapActs

end Conductor
