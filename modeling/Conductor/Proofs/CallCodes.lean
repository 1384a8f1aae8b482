import Conductor.Proofs.DispatchAside
import Conductor.Proofs.DockerCalls

/-! The exit codes of failed jobs in containers. A job whose call exited with an error has the exit
status for its code. One whose call never ran, or was stopped for its time, has a code too, which is
also the status of some processes, so that it looks like a job whose call exited with that.
-/

namespace Conductor

variable {ε : Type}

namespace ChildProcess

/-- The exit status that a call reports: that of its process, if it exited. -/
def Ending.status? : Ending → Option Int
  | .exited code _ _ => some code
  | .notStarted _ => none
  | .timedOut _ => none

/-- The code of a call is the exit status that it reports, or stands for there being none. -/
theorem Ending.code_eq (ending : Ending) : ending.code = ending.status?.getD noExitCode := by
  cases ending <;> rfl

/-- The code that stands for there being no exit status is no success. -/
theorem Ending.code_eq_zero_iff (ending : Ending) : ending.code = 0 ↔ ending.status? = some 0 := by
  have noSuccess : noExitCode ≠ 0 := by decide
  cases ending <;> simp [code, status?, noSuccess]

/-- A call that reports no exit status amounts to what a call does that exited with the code for
there being none.
-/
theorem outcome_unexited (call : Call) {ending : Ending} (unexited : ending.status? = none)
    : ∃ stdout stderr, outcome call (.exited noExitCode stdout stderr) = outcome call ending := by
  have noSuccess : noExitCode ≠ 0 := by decide
  cases ending with
  | exited code stdout stderr => cases unexited
  | notStarted reason =>
      refine ⟨"", reason, ?_⟩
      rw [outcome, if_neg noSuccess]
      rfl
  | timedOut stdout =>
      let limit := (call.timeout.map Seconds.text).getD noLimitText
      refine ⟨stdout.getD "", "Command timed out after " ++ limit ++ "s", ?_⟩
      rw [outcome, if_neg noSuccess]
      rfl

end ChildProcess

namespace Executor

section Codes

variable (settings : DockerSettings) (launch : Launcher ε) (spec : JobSpec) (state : ε)

/-- A job in a container passes if the code of its call is zero, and else fails with that code. -/
theorem docker_value
    : let code := (launch (settings.call spec) state).1.code
      let value := ((spec.unit (docker settings launch)).run.trace state).value
      (code = 0 ∧ value = .passed)
      ∨ (code ≠ 0
        ∧ ∃ failure,
            value = .failed failure
            ∧ failure.job = spec.name
            ∧ failure.exitCode = some code) := by
  intro code value
  simp only [value, JobSpec.unit_run_trace, docker_alone, DockerSettings.outcome]
  rcases ChildProcess.outcome_cases (settings.call spec) (launch (settings.call spec) state).1 with
    ⟨stdout, amounts, success⟩ | ⟨failure, amounts, failed, exitCode⟩
  · rw [amounts]
    exact .inl ⟨success, rfl⟩
  · rw [amounts]
    exact .inr ⟨failed, callFailure spec failure, rfl, rfl, congrArg some exitCode⟩

/-- Jobs in containers whose calls amount to the same and end in the same state run alike. -/
theorem docker_congr {launch' : Launcher ε}
    (amounts
      : ChildProcess.outcome (settings.call spec) (launch' (settings.call spec) state).1
        = ChildProcess.outcome (settings.call spec) (launch (settings.call spec) state).1)
    (later : (launch' (settings.call spec) state).2 = (launch (settings.call spec) state).2)
    : (spec.unit (docker settings launch')).run.trace state
      = (spec.unit (docker settings launch)).run.trace state := by
  simp only [JobSpec.unit_run_trace, docker_alone, DockerSettings.outcome,
    DockerSettings.conclusion, amounts, later]

/-- Jobs in containers that end alike have calls with the same code. -/
theorem docker_code_congr {launch' : Launcher ε}
    (alike
      : ((spec.unit (docker settings launch')).run.trace state).value
        = ((spec.unit (docker settings launch)).run.trace state).value)
    : (launch' (settings.call spec) state).1.code = (launch (settings.call spec) state).1.code := by
  rcases docker_value settings launch' spec state with
    ⟨zero', passed'⟩ | ⟨_, failure', failed', _, own'⟩
  · rcases docker_value settings launch spec state with ⟨zero, _⟩ | ⟨_, _, failed, _⟩
    · exact zero'.trans zero.symm
    · cases passed'.symm.trans (alike.trans failed)
  · rcases docker_value settings launch spec state with ⟨_, passed⟩ | ⟨_, failure, failed, _, own⟩
    · cases failed'.symm.trans (alike.trans passed)
    · cases failed'.symm.trans (alike.trans failed)
      exact Option.some.inj (own'.symm.trans own)

end Codes

/-- A job in a container makes one call and then passes or fails by the code of the call.

It passes exactly if the process exited with zero; otherwise the job fails, never breaks off, and
the failure is of this job. The exit code of the failure is the exit status of the process if it
exited, and `-1` if it never ran or was stopped for its time; so the code is the status that the
call reports exactly if it reports one. A job whose call reports none runs in all respects like one
whose call exits with `-1` and certain outputs, while those with other codes run otherwise.
Witness: by cases on what the call amounts to.
-/
theorem docker_codes (settings : DockerSettings) (launch : Launcher ε) (spec : JobSpec)
    (state : ε)
    : let ending := (launch (settings.call spec) state).1
      let trace := (spec.unit (docker settings launch)).run.trace state
      trace.acts.filterMap Act.call? = [settings.call spec]
      ∧ (trace.value = .passed ↔ ending.status? = some 0)
      ∧ (trace.value ≠ .passed
          → ∃ failure,
              trace.value = .failed failure
              ∧ failure.job = spec.name
              ∧ failure.exitCode = some (ending.status?.getD (-1))
              ∧ (failure.exitCode = ending.status? ↔ ending.status? ≠ none))
      ∧ (ending.status? = none
          → ∃ stdout stderr, ∀ code,
              let exiting : Launcher ε := fun call later =>
                (.exited code stdout stderr, (launch call later).2)
              (spec.unit (docker settings exiting)).run.trace state = trace ↔ code = -1) := by
  intro ending trace
  refine ⟨docker_calls settings launch spec state, ?passes, ?fails, ?alike⟩
  case passes =>
      rw [← ending.code_eq_zero_iff]
      rcases docker_value settings launch spec state with ⟨zero, passed⟩ | ⟨other, _, failed, _⟩
      · exact iff_of_true passed zero
      · refine iff_of_false (fun passed => ?_) other
        cases passed.symm.trans failed
  case fails =>
      intro unsuccessful
      rcases docker_value settings launch spec state with
        ⟨_, passed⟩ | ⟨_, failure, failed, job, code⟩
      · exact absurd passed unsuccessful
      · have written : failure.exitCode = some (ending.status?.getD (-1)) := by
          rw [code]
          exact congrArg some ending.code_eq
        refine ⟨failure, failed, job, written, ?_⟩
        rw [written]
        cases ending.status? <;> simp
  case alike =>
      intro unexited
      obtain ⟨stdout, stderr, amounts⟩ :=
        ChildProcess.outcome_unexited (settings.call spec) unexited
      refine ⟨stdout, stderr, fun code => ⟨fun same => ?_, ?_⟩⟩
      · -- The codes tell the two runs apart, unless the process has the code for there being none.
        have codes : code = ending.code :=
          docker_code_congr settings launch spec state (congrArg Trace.value same)
        rw [codes, ending.code_eq, unexited]
        rfl
      · rintro rfl
        exact docker_congr settings launch spec state amounts rfl

/-- A job whose call never ran fails with an exit code, which no process has reported; and a process
that was killed by its first signal leaves the very same failure.
-/
theorem docker_codes_invented
    : let spec : JobSpec := { name := "a", image := "img" }
      let reason := "[Errno 2] No such file or directory: 'docker'"
      let absent : Launcher Unit := fun _ state => (.notStarted reason, state)
      let killed : Launcher Unit := fun _ state => (.exited (-1) "" reason, state)
      let settings : DockerSettings := { sourceRoot := "/work" }
      let value (launch : Launcher Unit) :=
        ((spec.unit (docker settings launch)).run.trace ()).value
      (absent (settings.call spec) ()).1.status? = none
      ∧ value absent = .failed ⟨"a", reason, some (-1)⟩
      ∧ value killed = value absent := by
  decide +kernel

end Executor

end Conductor
