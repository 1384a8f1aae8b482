import Conductor.Proofs.JobActs
import Conductor.Proofs.Lookup

/-! Calls of docker say what they are to run. The command line of a job is read from left to right
in one way only, whatever words it is made of; the values of the environment stand beside it, those
of the job over those of the base.
-/

namespace Conductor

variable {ε : Type}

-----------------------------------------------------------------------------------------
-- Reading command lines
-----------------------------------------------------------------------------------------

namespace Docker

/-- What a command line orders docker to run. -/
structure Order where
  privileged : Bool
  keys : List String
  mount : String
  image : String
  shell : String
  script : String
  deriving DecidableEq, Repr

/-- What a job orders docker to run. -/
def order (spec : JobSpec) : Order where
  privileged := spec.privileged
  keys := spec.env.map Prod.fst
  mount :=
    match spec.workDir with
    | none => "/src"
    | some dir => if dir = "" then "/src" else dir
  image := spec.image
  shell := spec.shell
  script := spec.script

/-- The words of an order behind the first ones. -/
def Order.options (order : Order) (sourceRoot : String) : List String :=
  order.keys.flatMap (fun key => ["-e", key])
    ++ ["-v", sourceRoot ++ ":" ++ order.mount, "-w", order.mount,
      order.image, order.shell, "-c", order.script]

/-- The words of an order for sources at a place. -/
def Order.words (order : Order) (sourceRoot : String) : List String :=
  ["docker", "run", "--rm"]
    ++ (if order.privileged then ["--privileged"] else [])
    ++ order.options sourceRoot

/-- Reads the words behind the first ones, with the keys read so far. The word behind an `-e` is a
key, whatever it looks like, and so are the words behind the other options what these are for.
-/
def readOptions (privileged : Bool) (keys : List String) : List String → Option Order
  | "-e" :: key :: rest => readOptions privileged (keys ++ [key]) rest
  | ["-v", _, "-w", mount, image, shell, "-c", script] =>
    some { privileged, keys, mount, image, shell, script }
  | _ => none

/-- Reads a command line from left to right. -/
def read? : List String → Option Order
  | "docker" :: "run" :: "--rm" :: "--privileged" :: rest => readOptions true [] rest
  | "docker" :: "run" :: "--rm" :: rest => readOptions false [] rest
  | _ => none

/-- The job of an order has its words, by cases on the working directory. -/
theorem command_eq (spec : JobSpec) (sourceRoot : String)
    : command spec sourceRoot = (order spec).words sourceRoot := by
  have mounted : mount spec = (order spec).mount := by
    unfold mount order JobSpec.workDir? defaultMount
    cases spec.workDir with
    | none => rfl
    | some dir => by_cases empty : dir = "" <;> simp [Option.filter, empty]
  have keys : spec.env.flatMap (fun binding => ["-e", binding.1])
      = (order spec).keys.flatMap fun key => ["-e", key] := by
    rw [order, List.flatMap_map]
  rw [command, Order.words, Order.options, mounted, keys]
  simp only [List.append_assoc]
  rfl

/-- Keys are read one after the other, by induction on them. -/
theorem readOptions_keys (privileged : Bool) (before keys rest : List String)
    : readOptions privileged before (keys.flatMap (fun key => ["-e", key]) ++ rest)
      = readOptions privileged (before ++ keys) rest := by
  induction keys generalizing before with
  | nil => rw [List.flatMap_nil, List.nil_append, List.append_nil]
  | cons key keys ih =>
      have step := ih (before ++ [key])
      rw [List.append_assoc, List.singleton_append] at step
      exact step

/-- From the words of an order the order is read, wherever the sources are.
Witness: behind the first words there is either `--privileged` or another option; the keys then end
at the first `-v` that stands where an option does.
-/
theorem read?_words (order : Order) (sourceRoot : String)
    : read? (order.words sourceRoot) = some order := by
  obtain ⟨privileged, keys, mount, image, shell, script⟩ := order
  have options : ∀ order : Order,
      readOptions order.privileged [] (order.options sourceRoot) = some order := by
    intro order
    rw [Order.options, readOptions_keys]
    rfl
  cases privileged with
  | true => exact options ⟨true, keys, mount, image, shell, script⟩
  | false =>
      cases keys with
      | nil => rfl
      | cons key keys => exact options ⟨false, key :: keys, mount, image, shell, script⟩

/-- The words of orders are the same only if the orders and the places of the sources are.
Witness: the orders are read from the words; what is mounted then ends in the same way.
-/
theorem words_eq_iff {order order' : Order} {sourceRoot sourceRoot' : String}
    : order.words sourceRoot = order'.words sourceRoot'
      ↔ order = order' ∧ sourceRoot = sourceRoot' := by
  constructor
  · intro same
    have read := congrArg read? same
    rw [read?_words, read?_words] at read
    cases Option.some.inj read
    have options := List.append_cancel_left same
    have volumes := List.append_cancel_left options
    have roots := (List.cons.inj (List.cons.inj volumes).2).1
    rw [String.append_left_inj, String.append_left_inj] at roots
    exact ⟨rfl, roots⟩
  · rintro ⟨rfl, rfl⟩
    rfl

/-- The value of a variable is the last that the job gives it, or else that of the base. -/
theorem lookup_environment (base : Assoc String String) (spec : JobSpec) (key : String)
    : (environment base spec).lookup key
      = (spec.env.reverse.lookup key).or (base.lookup key) :=
  Assoc.lookup_insertAll_ofBindings base spec.env key

end Docker

/-- The lines of a script are the command to stop at a failure and the tasks, if each of these is a
line.
-/
theorem JobSpec.splitOn_script {spec : JobSpec} (lines : ∀ task ∈ spec.tasks, '\n' ∉ task.toList)
    : spec.script.toList.splitOn '\n' = "set -e".toList :: spec.tasks.map String.toList := by
  rw [script, String.toList_intercalate]
  refine List.splitOn_intercalate '\n' ?_ nofun
  rw [List.map_cons, List.forall_mem_cons, List.forall_mem_map]
  exact ⟨by decide, lines⟩

-----------------------------------------------------------------------------------------
-- Calls
-----------------------------------------------------------------------------------------

namespace Executor

/-- The one call of a job in a container. -/
theorem docker_calls (settings : DockerSettings) (launch : Launcher ε) (spec : JobSpec) (state : ε)
    : ((spec.unit (docker settings launch)).run.trace state).acts.filterMap Act.call?
      = [settings.call spec] := by
  rw [JobSpec.unit_run_trace, docker_alone, DockerSettings.conclusion]
  cases ChildProcess.outcome (settings.call spec) (launch (settings.call spec) state).1 <;> rfl

/-- A call that says what a job is to run. The order of the job is read from its command line, which
is that of no job with another order, and which holds no values; the environment beside it gives
each variable of the job the last value that the job has for it, and leaves all others as in the
base.
-/
structure DockerSettings.Encodes (settings : DockerSettings) (spec : JobSpec)
    (call : ChildProcess.Call) (env : Assoc String String)
    : Prop where
  values : call.env = some env
  readable : Docker.read? call.command = some (Docker.order spec)
  command_iff
    : ∀ other sourceRoot,
        ({ settings with sourceRoot }.call other).command = call.command
        ↔ Docker.order other = Docker.order spec ∧ sourceRoot = settings.sourceRoot
  valueless
    : ∀ env' baseEnv,
        env'.map Prod.fst = spec.env.map Prod.fst
        → ({ settings with baseEnv }.call { spec with env := env' }).command = call.command
  bound
    : ∀ before key value after,
        spec.env = before ++ (key, value) :: after
        → key ∉ after.map Prod.fst
        → env.lookup key = some value
  unbound
    : ∀ key, key ∉ spec.env.map Prod.fst → env.lookup key = settings.baseEnv.lookup key
  unique : (settings.baseEnv.map Prod.fst).Nodup → (env.map Prod.fst).Nodup
  lines
    : (∀ task ∈ spec.tasks, '\n' ∉ task.toList)
      → (Docker.order spec).script.toList.splitOn '\n'
        = "set -e".toList :: spec.tasks.map String.toList

/-- A job in a container makes one call, which says what the job is to run. -/
theorem docker_encodes (settings : DockerSettings) (launch : Launcher ε) (spec : JobSpec)
    (state : ε)
    : ∃ call env,
        ((spec.unit (docker settings launch)).run.trace state).acts.filterMap Act.call? = [call]
        ∧ settings.Encodes spec call env := by
  refine ⟨settings.call spec, Docker.environment settings.baseEnv spec,
    docker_calls settings launch spec state, ?_⟩
  exact {
    values := rfl
    readable := by
      rw [DockerSettings.call, Docker.command_eq, Docker.read?_words]
    command_iff := by
      intro other sourceRoot
      simp only [DockerSettings.call, Docker.command_eq]
      exact Docker.words_eq_iff
    valueless := by
      intro env' baseEnv keys
      simp only [DockerSettings.call, Docker.command_eq]
      rw [Docker.words_eq_iff]
      refine ⟨?_, rfl⟩
      rw [Docker.order, Docker.order, keys]
      rfl
    bound := by
      intro before key value after split last
      have none : after.reverse.lookup key = none :=
        lookup_eq_none_iff_notMem.mpr (by simpa using last)
      rw [Docker.lookup_environment, split, List.reverse_append, List.reverse_cons,
        List.lookup_append, List.lookup_append, none]
      simp
    unbound := by
      intro key other
      have none : spec.env.reverse.lookup key = none :=
        lookup_eq_none_iff_notMem.mpr (by simpa using other)
      rw [Docker.lookup_environment, none, Option.none_or]
    unique := fun base => Assoc.nodup_insertAll base _
    lines := JobSpec.splitOn_script
  }

/-- A job whose words look like options: it has two values for one variable, an empty working
directory, and no tasks.
-/
def optionLike : JobSpec where
  name := "odd"
  image := "--privileged"
  env := [("-e", "first"), ("-v", "-w"), ("--privileged", "x"), ("-e", "last")]
  workDir := some ""
  shell := "-c"

theorem docker_encodes_optionLike
    : ∃ call env,
        ((optionLike.unit (docker ⟨"/work", none, [("-e", "base"), ("HOME", "/root")]⟩
            fun _ state => (.exited 0 "" "", state))).run.trace ()).acts.filterMap Act.call?
          = [call]
        ∧ call.command
          = ["docker", "run", "--rm", "-e", "-e", "-e", "-v", "-e", "--privileged", "-e", "-e",
              "-v", "/work:/src", "-w", "/src", "--privileged", "-c", "-c", "set -e"]
        ∧ Docker.read? call.command
          = some ⟨false, ["-e", "-v", "--privileged", "-e"], "/src", "--privileged", "-c", "set -e"⟩
        ∧ call.env = some env
        ∧ env.lookup "-e" = some "last"
        ∧ env.lookup "HOME" = some "/root" := by
  obtain ⟨call, env, calls, encodes⟩ := docker_encodes
    ⟨"/work", none, [("-e", "base"), ("HOME", "/root")]⟩ (fun _ state => (.exited 0 "" "", state))
    optionLike ()
  have one := calls.symm.trans (docker_calls _ _ optionLike ())
  refine ⟨call, env, calls, ?_, encodes.readable, encodes.values, ?_, ?_⟩
  · rw [(List.cons.inj one).1]
    rfl
  · exact encodes.bound [("-e", "first"), ("-v", "-w"), ("--privileged", "x")] "-e" "last" [] rfl
      List.not_mem_nil
  · rw [encodes.unbound "HOME" (by decide)]
    rfl

end Executor

end Conductor
