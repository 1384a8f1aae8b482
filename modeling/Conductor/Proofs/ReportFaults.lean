import Conductor.Proofs.ReportDelivery

/-! Faults of reports and failures of jobs. A failed job stands among the failures of its group with
its own failure as long as the report on it is delivered; an error that breaks the report off takes
the place of that failure.
-/

namespace Conductor

variable {ε : Type}

/-- What an item shows stands behind what the items before it show.
Witness: the items before it show as many entries as there are items among them that show one.
-/
theorem filterMap_getElem?_of_getElem? {α β : Type} {view : α → Option β} {items : List α}
    {place : Nat} {item : α} {entry : β} (found : items[place]? = some item)
    (shown : view item = some entry)
    : (items.filterMap view)[(items.take place).countP fun other => (view other).isSome]?
      = some entry := by
  obtain ⟨within, rfl⟩ := List.getElem?_eq_some_iff.mp found
  have split : items = items.take place ++ items[place] :: items.drop (place + 1) := by simp
  have shows : items.filterMap view
      = (items.take place).filterMap view
        ++ entry :: (items.drop (place + 1)).filterMap view := by
    conv_lhs => rw [split]
    rw [List.filterMap_append, List.filterMap_cons_some shown]
  rw [shows, ← List.length_filterMap_eq_countP, List.getElem?_append_right (Nat.le_refl _),
    Nat.sub_self]
  rfl

namespace Check.Course

/-- How many of the checks before a place failed: where the check at the place is to be found among
the failures, if it failed too.
-/
def rank (courses : List (Course ε)) (place : Nat) : Nat :=
  (courses.take place).countP fun course => course.failure?.isSome

/-- A course whose job failed counts as that failure if its report was delivered, and else as the
error that broke the report off, by cases on what broke it off.
-/
theorem failure?_of_failed {course : Course ε} {failure : UnitFailure}
    (failed : course.outcome.failure? course.job.name = some failure)
    (delivered : ∀ text, course.breakdown ≠ some (.cancelled text))
    : course.breakdown = none ∧ course.failure? = some failure
      ∨ ∃ trouble : Trouble,
          course.breakdown = some (.trouble trouble)
          ∧ course.failure?
            = some { job := course.job.name, reason := trouble.kind ++ ": " ++ trouble.text } := by
  obtain ⟨job, outcome, breakdown⟩ := course
  rcases breakdown with _ | ⟨trouble | text⟩
  · exact Or.inl ⟨rfl, failed⟩
  · exact Or.inr ⟨trouble, rfl, rfl⟩
  · exact absurd rfl (delivered text)

/-- A course that ends with no cancellation has a report that was not cancelled. -/
theorem delivered_of_result {course : Course ε} (settled : course.result.cancellation? = none)
    (text : String)
    : course.breakdown ≠ some (.cancelled text) := by
  intro cancelled
  rw [result, cancelled] at settled
  cases settled

end Check.Course

namespace Suite

/-- How failed jobs are entered among the failures of a group of checks that came to a result. Each
check takes one course by stretches of its own: its job ends, and its report is handed over. A job
that failed is entered behind the checks before it that failed: with its own failure if the report
was delivered, and if not, with the error that broke the report off.
-/
structure Enters (services : Services ε) (factories : List (Factory ε)) (event : Event)
    (project : Project) (detailsUrl : String) (jobs : List (UnitOfWork ε))
    (stretches : List Stretch) (courses : List (Check.Course ε)) (acts : List Act)
    (result : Except Aggregate Unit)
    : Prop
    extends
      Check.Courses services.reporter (Check.Course.report event project detailsUrl) jobs stretches
        courses where
  acts
    : acts
      = (factories.map fun factory => .built factory.key)
        ++ ((if jobs.isEmpty then [] else [Group.opening jobs]).map fun message =>
            .did (.wrote message))
        ++ stretches.flatMap Stretch.acts
        ++ (Group.closing jobs.length (courses.filterMap Check.Course.failure?)).map fun message =>
            .did (.wrote message)
  verdict : result = Group.verdict (courses.filterMap Check.Course.failure?)
  entered
    : ∀ place course failure,
        courses[place]? = some course
        → course.outcome.failure? course.job.name = some failure
        → ∃ group,
            result = .error group
            ∧ (course.breakdown = none
                ∧ group.failures[Check.Course.rank courses place]? = some failure
              ∨ ∃ trouble : Trouble,
                  course.breakdown = some (.trouble trouble)
                  ∧ group.failures[Check.Course.rank courses place]?
                    = some
                        { job := course.job.name, reason := trouble.kind ++ ": " ++ trouble.text })

end Suite

/-- The failures of a group with a failure are those that it comes to, by cases on these. -/
theorem Group.verdict_of_getElem? {failures : List UnitFailure} {index : Nat} {entry : UnitFailure}
    (found : failures[index]? = some entry)
    : ∃ group, verdict failures = .error group ∧ group.failures = failures := by
  cases failures with
  | nil => cases found
  | cons first rest => exact ⟨_, rfl, rfl⟩

namespace Suite

/-- A group of checks that comes to a result enters each job that failed with its own failure,
unless an error broke the report on it off: then with that error. It comes to a result unless a job
or a report is cancelled. Witness: the courses of the checks, whose failures are those of the group.
-/
theorem runChecks_enters {services : Services ε} {event : Event} (project : Project)
    {detailsUrl : String} (shown : services.detailsUrl event.buildId = .ok detailsUrl)
    {factories : List (Factory ε)} {jobs : List (UnitOfWork ε)} {state : ε}
    (building : (Attempt.trace (factories.mapM Factory.run) state).value = .ok jobs)
    : let trace := (runChecks services factories event project).trace state
      (services.reporter.Uncancelled
        → (∀ job ∈ jobs, job.Uncancelled)
        → ∃ result, trace.value = .ok result)
      ∧ ∀ result,
          trace.value = .ok result
          → ∃ stretches courses,
              Enters services factories event project detailsUrl jobs stretches courses trace.acts
                result := by
  rw [runChecks_built services project shown building]
  generalize (Attempt.trace (factories.mapM Factory.run) state).state = ready
  intro trace
  constructor
  · intro reporting uncancelled
    exact Group.runAll_checks_through services.schedule reporting event project detailsUrl
      uncancelled
      ready
  intro result through
  obtain ⟨stretches, courses, taken, settled, _, verdict, told⟩ :=
    Group.runAll_concludes services.schedule services.reporter event project detailsUrl jobs ready
      result through
  have acts := told.trans (Group.told_eq (by
    rintro rfl
    obtain ⟨rfl, rfl⟩ := taken.of_none
    exact ⟨rfl, rfl⟩))
  refine ⟨stretches, courses, ?_⟩
  exact {
    toCourses := taken
    acts := by simp only [trace, Trace.behind_acts, acts, List.append_assoc]
    verdict
    entered := by
      intro place course failure found failed
      have delivered := Check.Course.delivered_of_result
        (settled course (List.mem_of_getElem? found))
      have enters : ∀ entry, course.failure? = some entry → ∃ group,
          result = .error group
          ∧ group.failures[Check.Course.rank courses place]? = some entry := by
        intro entry counts
        have listed := filterMap_getElem?_of_getElem? found counts
        obtain ⟨group, ended, failures⟩ := Group.verdict_of_getElem? listed
        exact ⟨group, verdict.trans ended, failures ▸ listed⟩
      rcases Check.Course.failure?_of_failed failed delivered with
        ⟨kept, counts⟩ | ⟨trouble, broken, counts⟩
      · obtain ⟨group, ended, entry⟩ := enters failure counts
        exact ⟨group, ended, Or.inl ⟨kept, entry⟩⟩
      · obtain ⟨group, ended, entry⟩ := enters _ counts
        exact ⟨group, ended, Or.inr ⟨trouble, broken, entry⟩⟩
  }

/-- Two jobs that fail, each in its own way. -/
def failing : List (UnitOfWork Unit) :=
  [.ofBehaviour "lint" ⟨1, .failed ⟨"lint", "style", some 2⟩⟩,
    .ofBehaviour "test" ⟨0, .broken (.trouble ⟨"OSError", "disk"⟩)⟩]

/-- Of two jobs that fail, the one whose report is delivered keeps its failure. -/
theorem runChecks_enters_offline
    : let services := { Handlers.rehearsal with reporter := .later (offlineFor "test") }
      let factories := failing.map (Factory.ofUnit "check")
      let trace := (runChecks services factories Handlers.branchEvent Release.equipped).trace ()
      let result : Except Aggregate Unit :=
        .error (.ofFailures ⟨"lint", "style", some 2⟩ [⟨"test", "RuntimeError: offline", none⟩])
      (Attempt.trace (factories.mapM Factory.run) ()).value = .ok failing
      ∧ trace.value = .ok result
      ∧ ∃ detailsUrl stretches courses,
          services.detailsUrl Handlers.branchEvent.buildId = .ok detailsUrl
          ∧ Enters services factories Handlers.branchEvent Release.equipped detailsUrl failing
              stretches courses trace.acts result := by
  intro services factories trace result
  have shown
    : services.detailsUrl Handlers.branchEvent.buildId
      = .ok "https://brigadecore.github.io/kashti/builds/b7" := by cbv
  have building : (Attempt.trace (factories.mapM Factory.run) ()).value = .ok failing := rfl
  have through : trace.value = .ok result := by decide +kernel
  obtain ⟨_, enters⟩ := runChecks_enters Release.equipped shown building
  obtain ⟨stretches, courses, entered⟩ := enters result through
  exact ⟨building, through, _, stretches, courses, shown, entered⟩

/-- A job fails by itself, and the error of its report takes the place of its failure, with another
reason and without the exit code.
-/
theorem runChecks_replaces
    : let failure : UnitFailure := ⟨"lint", "style", some 2⟩
      let job : UnitOfWork Unit := .ofBehaviour "lint" ⟨0, .failed failure⟩
      let services := { Handlers.rehearsal with reporter := .later (offlineFor "lint") }
      let trace :=
        (runChecks services [.ofUnit "lint" job] Handlers.branchEvent Release.equipped).trace ()
      (job.run.trace ()).value.failure? job.name = some failure
      ∧ ∃ group,
          trace.value = .ok (.error group)
          ∧ group.failures = [⟨"lint", "RuntimeError: offline", none⟩]
          ∧ failure ∉ group.failures := by
  intro failure job services trace
  exact ⟨rfl, .ofFailures ⟨"lint", "RuntimeError: offline", none⟩ [], by decide +kernel, rfl,
    by decide⟩

end Suite

end Conductor
