import Conductor.Proofs.CheckRerun
import Conductor.Proofs.SuiteAnswers

/-! What comes before checks start. The address of the build is shown and all checks are built
before any of them starts; whatever breaks a run off does so then, and once checks have started all
of them run to their ends.
-/

namespace Conductor

variable {ε : Type}

-----------------------------------------------------------------------------------------
-- Building
-----------------------------------------------------------------------------------------

namespace Factory

/-- `Builds factories state units final` says that factories that are called in order, from one
state to another, build units, each its own.
-/
inductive Builds : List (Factory ε) → ε → List (UnitOfWork ε) → ε → Prop where
  | done {state} : Builds [] state [] state
  | next {factory rest state unit units final}
    (built : (factory.build state).1 = .ok unit)
    (later : Builds rest (factory.build state).2 units final)
    : Builds (factory :: rest) state (unit :: units) final

/-- `BreaksDown factories state called` says that of factories that are called in order some are
called, of which the last breaks down and the others build their units.
-/
inductive BreaksDown : List (Factory ε) → ε → List (Factory ε) → Prop where
  | here {factory rest state breakdown} (broken : (factory.build state).1 = .error breakdown)
    : BreaksDown (factory :: rest) state [factory]
  | later {factory rest state unit called}
    (built : (factory.build state).1 = .ok unit)
    (broken : BreaksDown rest (factory.build state).2 called)
    : BreaksDown (factory :: rest) state (factory :: called)

variable {factories called : List (Factory ε)} {state final : ε} {units : List (UnitOfWork ε)}

/-- Factories build their units or break down, by induction on the factories. -/
theorem builds_or_breaksDown (factories : List (Factory ε)) (state : ε)
    : (∃ units final, Builds factories state units final)
      ∨ ∃ called, BreaksDown factories state called := by
  induction factories generalizing state with
  | nil => exact Or.inl ⟨[], state, .done⟩
  | cons factory rest ih =>
      cases made : (factory.build state).1 with
      | error breakdown => exact Or.inr ⟨[factory], .here made⟩
      | ok unit =>
          rcases ih (factory.build state).2 with ⟨units, final, builds⟩ | ⟨called, broken⟩
          · exact Or.inl ⟨unit :: units, final, .next made builds⟩
          · exact Or.inr ⟨factory :: called, .later made broken⟩

/-- Factories that build their units do nothing else, by induction on the units. -/
theorem Builds.trace (builds : Builds factories state units final)
    : Attempt.trace (factories.mapM run) state
      = ⟨.ok units, final, factories.map fun factory => .built factory.key⟩ := by
  induction builds with
  | done => rfl
  | @next factory rest state unit units final built later ih =>
      have first := factory.run_trace state
      rw [built] at first
      rw [List.mapM_cons, Attempt.trace_bind_ok first, Attempt.trace_bind_ok ih]
      simp [Trace.behind]

/-- Factories that break down have done nothing but to build units before, by induction on those
that are called.
-/
theorem BreaksDown.trace (broken : BreaksDown factories state called)
    : ∃ fault final,
        Attempt.trace (factories.mapM run) state
        = ⟨.error fault, final, called.map fun factory => .built factory.key⟩ := by
  induction broken with
  | @here factory rest state breakdown broken =>
      have first := factory.run_trace state
      rw [broken] at first
      rw [List.mapM_cons]
      exact ⟨_, _, Attempt.trace_bind_error first⟩
  | @later factory rest state unit called built broken ih =>
      obtain ⟨fault, final, others⟩ := ih
      have first := factory.run_trace state
      rw [built] at first
      rw [List.mapM_cons, Attempt.trace_bind_ok first, Attempt.trace_bind_error others]
      exact ⟨fault, final, rfl⟩

/-- Factories are called in order, by induction on those that are called. -/
theorem BreaksDown.called_prefix (broken : BreaksDown factories state called)
    : called <+: factories := by
  induction broken with
  | here _ => exact List.cons_prefix_cons.mpr ⟨rfl, List.nil_prefix⟩
  | later _ _ ih => exact List.cons_prefix_cons.mpr ⟨rfl, ih⟩

/-- Factories that build their units do not break down. -/
theorem Builds.not_breaksDown (builds : Builds factories state units final)
    : ¬BreaksDown factories state called := by
  intro broken
  obtain ⟨fault, _, same⟩ := broken.trace
  rw [builds.trace] at same
  cases same

/-- Each unit is built by one of the factories, by induction on the units. -/
theorem Builds.forall_units {P : UnitOfWork ε → Prop} (builds : Builds factories state units final)
    (each
      : ∀ factory ∈ factories, ∀ state unit, (factory.build state).1 = .ok unit → P unit)
    : ∀ unit ∈ units, P unit := by
  induction builds with
  | done => exact List.forall_mem_nil _
  | next built _ ih =>
      obtain ⟨first, others⟩ := List.forall_mem_cons.mp each
      exact List.forall_mem_cons.mpr ⟨first _ _ built, ih others⟩

end Factory

-----------------------------------------------------------------------------------------
-- All or nothing
-----------------------------------------------------------------------------------------

namespace Suite

/-- How checks run of which none is left out. The factories have all built their jobs, each once,
and each of these is delivered.
-/
structure RunsAll (services : Services ε) (factories : List (Factory ε)) (event : Event)
    (project : Project) (state : ε) (detailsUrl : String) (jobs : List (UnitOfWork ε))
    (stretches : List Stretch) (courses : List (Check.Course ε))
    (trace : Trace Act ε (Except Fault (Except Aggregate Unit)))
    : Prop
    extends
      Delivers services factories event project state detailsUrl jobs stretches courses trace where
  built : ∃ ready, Factory.Builds factories state jobs ready

/-- Checks run all or not at all. A run of checks breaks off exactly if the address of the build
cannot be shown or a factory breaks down, and then it has done nothing but to call some factories;
and if it comes to a result, it has run all checks.
-/
structure AllOrNothing (services : Services ε) (factories : List (Factory ε)) (event : Event)
    (project : Project) (state : ε)
    (trace : Trace Act ε (Except Fault (Except Aggregate Unit)))
    : Prop where
  broken_iff
    : (∃ fault, trace.value = .error fault)
      ↔ (∃ refusal, services.detailsUrl event.buildId = .error refusal)
        ∨ ∃ called, Factory.BreaksDown factories state called
  nothing
    : ∀ fault,
        trace.value = .error fault
        → ∃ called,
            called <+: factories
            ∧ trace.acts = called.map fun factory => .built factory.key
  all
    : ∀ result,
        trace.value = .ok result
        → ∃ detailsUrl jobs stretches courses,
            services.detailsUrl event.buildId = .ok detailsUrl
            ∧ RunsAll services factories event project state detailsUrl jobs stretches courses trace

section Preparation

variable {services : Services ε} {factories : List (Factory ε)} {event : Event}

/-- Checks that break off behind the calls of some factories, for one of two reasons, are run not at
all.
-/
theorem AllOrNothing.of_broken {project : Project} {state : ε}
    {trace : Trace Act ε (Except Fault (Except Aggregate Unit))} {fault : Fault}
    (broken : trace.value = .error fault)
    (reason
      : (∃ refusal, services.detailsUrl event.buildId = .error refusal)
        ∨ ∃ called, Factory.BreaksDown factories state called)
    {called : List (Factory ε)} (within : called <+: factories)
    (acts : trace.acts = called.map fun factory => .built factory.key)
    : AllOrNothing services factories event project state trace where
  broken_iff := iff_of_true ⟨fault, broken⟩ reason
  nothing _ _ := ⟨called, within, acts⟩
  all result through := by
    rw [broken] at through
    cases through

variable (reporting : services.reporter.Uncancelled) (project : Project) {state : ε}

include reporting

/-- Checks run all or not at all. Witness: by cases on whether the address of the build is shown
and all checks are built.
-/
theorem runChecks_prepares
    (building
      : ∀ factory ∈ factories,
          ∀ state unit, (factory.build state).1 = .ok unit → unit.Uncancelled)
    : AllOrNothing services factories event project state
        ((runChecks services factories event project).trace state) := by
  cases shown : services.detailsUrl event.buildId with
  | error refusal =>
      rw [runChecks_refused services factories event project state shown]
      exact .of_broken rfl (.inl ⟨refusal, shown⟩) List.nil_prefix rfl
  | ok detailsUrl =>
      rcases Factory.builds_or_breaksDown factories state with
        ⟨jobs, ready, builds⟩ | ⟨called, broken⟩
      · obtain ⟨stretches, courses, delivers⟩ :=
          runChecks_delivers reporting project shown (congrArg Trace.value builds.trace)
            (builds.forall_units building)
        exact {
          broken_iff := by
            rw [delivers.value, shown]
            constructor
            · rintro ⟨fault, ⟨⟩⟩
            · rintro (⟨refusal, ⟨⟩⟩ | ⟨called, broken⟩)
              exact absurd broken builds.not_breaksDown
          nothing fault failed := by
            rw [delivers.value] at failed
            cases failed
          all _ _ := ⟨detailsUrl, jobs, stretches, courses, shown, delivers, ready, builds⟩
        }
      · obtain ⟨fault, final, broke⟩ := broken.trace
        have whole : (runChecks services factories event project).trace state
            = ⟨.error fault, final, called.map fun factory => .built factory.key⟩ := by
          simp only [runChecks, shown]
          exact Attempt.trace_bind_error broke
        rw [whole]
        exact .of_broken rfl (.inr ⟨called, broken⟩) broken.called_prefix rfl

end Preparation

/-- The factory of a job builds the unit of this job, from every state. -/
theorem ofJob_uncancelled {services : Services ε} (executing : services.executor.Uncancelled)
    : ∀ factory ∈ factories services,
        ∀ state unit, (factory.build state).1 = .ok unit → unit.Uncancelled := by
  intro factory member state unit built
  obtain ⟨spec, _, rfl⟩ := List.mem_map.mp member
  cases built
  exact executing.unit spec

/-- A suite comes to what its checks come to. If these break off, it has done nothing but to write
its heading; and if they come to a result, nothing is done about its jobs and nothing more is
reported behind them.
-/
structure Surrounds (config : Config)
    (checks suite : Trace Act ε (Except Fault (Except Aggregate Unit)))
    : Prop where
  value : suite.value = checks.value
  nothing
    : ∀ fault,
        suite.value = .error fault → ∃ heading : Message, suite.acts = [.did (.wrote heading)]
  all
    : ∀ result,
        suite.value = .ok result
        → ∃ (heading : Message) (behind : List Act),
            suite.acts = [.did (.wrote heading)] ++ checks.acts ++ behind
            ∧ ∀ act ∈ behind,
                act.report? = none ∧ ∀ spec ∈ Catalog.suite config, act.Spares spec.name

/-- A suite surrounds its checks. Witness: by cases on whether the address of the build is shown, as
the factories of jobs do not break down.
-/
theorem run_surrounds {services : Services ε} (executing : services.executor.Uncancelled)
    (reporting : services.reporter.Uncancelled) (event : Event) (project : Project) (state : ε)
    : Surrounds services.config
        ((runChecks services (factories services) event project).trace state)
        ((run services event project).trace state) := by
  cases shown : services.detailsUrl event.buildId with
  | error refusal =>
      obtain ⟨heading, refused⟩ := run_refused services event project state shown
      rw [refused, runChecks_refused services _ event project state shown]
      exact ⟨rfl, fun _ _ => ⟨heading, rfl⟩, nofun⟩
  | ok detailsUrl =>
      obtain ⟨result, checked⟩
        : ∃ result,
            ((runChecks services (factories services) event project).trace state).value
            = .ok result :=
        runChecks_value executing reporting event project state
          (List.cons_ne_nil _ _ : Catalog.suite services.config ≠ []) shown
      obtain ⟨heading, behind, value, acts, spares⟩ :=
        run_around executing event project state checked
      exact {
        value := value.trans checked.symm
        nothing := by rw [value]; nofun
        all _ _ := ⟨heading, behind, acts, spares⟩
      }

/-- Checks run all or not at all, by themselves, in a suite, and on request. A run of checks breaks
off only before any of them starts, where the address of the build cannot be shown or a factory
breaks down; a suite breaks off with nothing but its heading, so that no images are published; and a
request for a check runs that of one factory all or not at all, or of none.
-/
theorem checks_allOrNothing {services : Services ε} (executing : services.executor.Uncancelled)
    (reporting : services.reporter.Uncancelled) {factories : List (Factory ε)}
    (building
      : ∀ factory ∈ factories,
          ∀ state unit, (factory.build state).1 = .ok unit → unit.Uncancelled)
    (event : Event) (project : Project) (state : ε)
    : AllOrNothing services factories event project state
        ((runChecks services factories event project).trace state)
      ∧ (let checks := (runChecks services (Suite.factories services) event project).trace state
        AllOrNothing services (Suite.factories services) event project state checks
        ∧ Surrounds services.config checks ((run services event project).trace state))
      ∧ ∀ name : Text,
          let request := (CheckRequest.run services factories name event project).trace state
          ((∀ factory ∈ factories, Text.ofString factory.key ≠ name)
            ∧ request
              = ⟨.ok (.error (.unknownCheck name (factories.map Factory.key))), state, []⟩)
          ∨ ∃ factory ∈ factories,
              let checks := (runChecks services [factory] event project).trace state
              Text.ofString factory.key = name
              ∧ AllOrNothing services [factory] event project state checks
              ∧ request
                = ⟨checks.value.map fun ended => ended.mapError Failure.group, checks.state,
                    .did (.wrote (.info ("Check requested: " ++ factory.key)))
                      :: checks.acts⟩ := by
  refine ⟨runChecks_prepares reporting project building,
    ⟨runChecks_prepares reporting project (ofJob_uncancelled executing),
      run_surrounds executing reporting event project state⟩,
    fun name => ?_⟩
  cases found : CheckRequest.factory? factories name with
  | none =>
      exact .inl ⟨CheckRequest.factory?_eq_none_iff.mp found,
        CheckRequest.run_unknown found event project state⟩
  | some factory =>
      have member : factory ∈ factories := List.mem_of_find?_eq_some found
      have same := List.find?_some found
      have alone : ∀ other ∈ [factory], ∀ state unit,
          (other.build state).1 = .ok unit → unit.Uncancelled :=
        fun other known => List.mem_singleton.mp known ▸ building factory member
      exact .inr ⟨factory, member, eq_of_beq same, runChecks_prepares reporting project alone,
        CheckRequest.run_found found event project state⟩

/-- Factories of which the second breaks down. -/
def brokenFactories : List (Factory Unit) :=
  [.ofUnit "lint" (.ofBehaviour "lint" ⟨1, .failed ⟨"lint", "style", some 2⟩⟩),
    ⟨"gone", fun state => (.error (.trouble ⟨"KeyError", "'gone'"⟩), state)⟩,
    .ofUnit "test" (.ofBehaviour "test" ⟨2, .passed⟩)]

theorem checks_allOrNothing_broken
    : let services := { Handlers.rehearsal with
        reporter := .later .console, schedule := fun count => count + 1 }
      let event := Handlers.branchEvent
      let project := Release.equipped
      let broken := (runChecks services brokenFactories event project).trace ()
      let request :=
        (CheckRequest.run services brokenFactories (Text.ofString "lint") event project).trace ()
      services.executor.Uncancelled
      ∧ services.reporter.Uncancelled
      ∧ (∀ factory ∈ brokenFactories,
          ∀ state unit, (factory.build state).1 = .ok unit → unit.Uncancelled)
      ∧ AllOrNothing services brokenFactories event project () broken
      ∧ broken.acts = [.built "lint", .built "gone"]
      ∧ request.value
        = .ok (.error (.group (.ofFailures ⟨"lint", "style", some 2⟩ [])))
      ∧ (request.acts.filterMap Act.report?).length = 1 := by
  intro services event project broken request
  have executing : services.executor.Uncancelled := Executor.dryRun_uncancelled
  have reporting : services.reporter.Uncancelled := Reporter.console_uncancelled.later
  have building : ∀ factory ∈ brokenFactories,
      ∀ state unit, (factory.build state).1 = .ok unit → unit.Uncancelled := by
    intro factory member state unit built
    simp only [brokenFactories, List.mem_cons, List.not_mem_nil, or_false] at member
    rcases member with rfl | rfl | rfl
    all_goals cases built
    all_goals exact fun _ _ goes => (Group.ofBehaviour_goes goes).2 ▸ rfl
  obtain ⟨prepares, _⟩ := checks_allOrNothing executing reporting building event project ()
  exact ⟨executing, reporting, building, prepares, by decide +kernel, by decide +kernel,
    by decide +kernel⟩

end Suite

end Conductor
