import Conductor.FileTree
import Conductor.Platform
import Conductor.Work.Act

/-!
Faults: what breaks a request off instead of answering it. Failures of jobs are no faults; they
are values that a request ends with.
-/

namespace Conductor

/-- Why a request broke off. -/
inductive Fault where
  | broken (breakdown : Breakdown)
  | template (refusal : Template.Refusal)
  | pattern (refusal : Pattern.Refusal)
  | noGroup
  | longNumber (digits : Nat)
  | tooDeep
  | unreadable (path : String) (error : ReadError)
  | unhashable (isTable : Bool)
  | noHome
  | unresolved (trouble : Trouble)
  deriving DecidableEq, Repr

namespace Fault

def cancelled (text : String) : Fault := .broken (.cancelled text)

/-- The fault of a payload that is not answered. -/
def ofJson : Json.Fault → Fault
  | .longNumber digits => .longNumber digits
  | .tooDeep => .tooDeep

end Fault

/-- A run that may break off. -/
abbrev Attempt (ε α : Type) := ExceptT Fault (Run Act ε) α

namespace Attempt

variable {ε α : Type}

def ofRun (run : Run Act ε α) : Attempt ε α :=
  ExceptT.lift run

def write (messages : List Message) : Attempt ε Unit :=
  ofRun (Run.write messages)

-----------------------------------------------------------------------------------------
-- Attempts from a state
-----------------------------------------------------------------------------------------

def trace (attempt : Attempt ε α) (state : ε) : Trace Act ε (Except Fault α) :=
  Run.trace attempt.run state

@[simp]
theorem trace_pure (value : α) (state : ε)
    : (pure value : Attempt ε α).trace state = ⟨.ok value, state, []⟩ := rfl

@[simp]
theorem trace_throw (fault : Fault) (state : ε)
    : (throw fault : Attempt ε α).trace state = ⟨.error fault, state, []⟩ := rfl

/-- A run that is attempted does not break off. -/
@[simp]
theorem trace_ofRun (run : Run Act ε α) (state : ε)
    : (ofRun run).trace state
      = ⟨.ok (run.trace state).value, (run.trace state).state, (run.trace state).acts⟩ := by
  change Trace.mk _ _ ((run.trace state).acts ++ []) = _
  rw [List.append_nil]
  rfl

@[simp]
theorem trace_liftM (run : Run Act ε α) (state : ε)
    : (liftM run : Attempt ε α).trace state
      = ⟨.ok (run.trace state).value, (run.trace state).state, (run.trace state).acts⟩ :=
  trace_ofRun run state

/-- A result that is attempted breaks off with its fault, if it is one. -/
@[simp]
theorem trace_liftExcept (result : Except Fault α) (state : ε)
    : (liftM result : Attempt ε α).trace state = ⟨result, state, []⟩ := rfl

@[simp]
theorem trace_write (messages : List Message) (state : ε)
    : (write messages : Attempt ε Unit).trace state
      = ⟨.ok (), state, messages.map fun message => .did (.wrote message)⟩ :=
  trace_ofRun (Run.write messages) state

/-- What follows an attempt that comes through goes on from the state that it leaves. -/
theorem trace_bind_ok {β : Type} {first : Attempt ε α} {next : α → Attempt ε β}
    {state later : ε} {value : α} {acts : List Act}
    (through : first.trace state = ⟨.ok value, later, acts⟩)
    : (first >>= next).trace state = ((next value).trace later).behind acts := by
  unfold trace at *
  rw [ExceptT.run_bind, Run.trace_bind, through]

/-- Nothing follows an attempt that breaks off. -/
theorem trace_bind_error {β : Type} {first : Attempt ε α} {next : α → Attempt ε β}
    {state later : ε} {fault : Fault} {acts : List Act}
    (broken : first.trace state = ⟨.error fault, later, acts⟩)
    : (first >>= next).trace state = ⟨.error fault, later, acts⟩ := by
  unfold trace at *
  rw [ExceptT.run_bind, Run.trace_bind, broken]
  simp only [Run.trace_pure, Trace.behind, List.append_nil]

/-- What follows a run comes behind it. -/
@[simp]
theorem trace_liftM_bind {β : Type} (run : Run Act ε α) (next : α → Attempt ε β) (state : ε)
    : ((liftM run : Attempt ε α) >>= next).trace state
      = ((next (run.trace state).value).trace (run.trace state).state).behind
          (run.trace state).acts :=
  trace_bind_ok (trace_liftM run state)

/-- What follows messages comes behind them. -/
@[simp]
theorem trace_write_bind {β : Type} (messages : List Message) (next : Unit → Attempt ε β)
    (state : ε)
    : (write messages >>= next).trace state
      = ((next ()).trace state).behind (messages.map fun message => .did (.wrote message)) :=
  trace_bind_ok (trace_write messages state)

/-- An attempt in two parts either breaks off in the first or goes on from where it ends. -/
theorem trace_bind_cases {β : Type} (first : Attempt ε α) (next : α → Attempt ε β) (state : ε)
    : (∃ fault, (first.trace state).value = .error fault
        ∧ (first >>= next).trace state
          = ⟨.error fault, (first.trace state).state, (first.trace state).acts⟩)
      ∨ ∃ value, (first.trace state).value = .ok value
        ∧ (first >>= next).trace state
          = ((next value).trace (first.trace state).state).behind (first.trace state).acts := by
  rcases ended : first.trace state with ⟨_ | value, later, acts⟩
  · exact Or.inl ⟨_, rfl, trace_bind_error ended⟩
  · exact Or.inr ⟨value, rfl, trace_bind_ok ended⟩

/-- From every state all acts of the attempt satisfy `P`. -/
def Every (P : Act → Prop) (attempt : Attempt ε α) : Prop :=
  ∀ state, ∀ act ∈ (attempt.trace state).acts, P act

end Attempt

end Conductor
