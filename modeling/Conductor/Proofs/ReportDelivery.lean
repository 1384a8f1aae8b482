import Conductor.Proofs.AddedReports

/-! How checks are reported. Each check hands over one report, on how its own job ended and behind
that end, whatever other checks do in the meantime; and a report that is broken off counts against
its own check and touches no other.
-/

namespace Conductor

variable {ε α : Type}

-----------------------------------------------------------------------------------------
-- Courses of checks
-----------------------------------------------------------------------------------------

/-- A job that reports nothing by itself. -/
def UnitOfWork.Silent (job : UnitOfWork ε) : Prop :=
  job.Every fun act => act.report? = none ∧ act.delivery? = none

/-- The course of a check: its job, how that ended, and what broke the report on it off, if anything
did.
-/
structure Check.Course (ε : Type) where
  job : UnitOfWork ε
  outcome : Outcome
  breakdown : Option Breakdown

namespace Check.Course

/-- The report on a course for an event. -/
def report (event : Event) (project : Project) (detailsUrl : String) (course : Course ε)
    : StatusReport where
  repoName := project.repoName
  buildId := event.buildId
  check := course.job.name
  status := if course.outcome = .passed then .success else .failure
  detailsUrl
  summary := (course.outcome.failure? course.job.name).map UnitFailure.message

/-- The failure that a course counts as. An error that broke the report off is a failure of the
check, with the error in words for its reason; else the failure of the job is that of the check.
-/
def failure? (course : Course ε) : Option UnitFailure :=
  match course.breakdown with
  | none => course.outcome.failure? course.job.name
  | some (.trouble trouble) =>
    some { job := course.job.name, reason := trouble.kind ++ ": " ++ trouble.text }
  | some (.cancelled _) => none

/-- How a check ends after a course. -/
def result (course : Course ε) : Outcome :=
  Check.result (course.outcome.failure? course.job.name) course.breakdown

/-- A check reports the course that its job took, by cases on the outcome of the job. -/
theorem report_eq {event : Event} {project : Project} {detailsUrl : String} (course : Course ε)
    (running : course.outcome.cancellation? = none)
    : (Suite.checkOf event project detailsUrl course.job).report
        (course.outcome.failure? course.job.name)
      = course.report event project detailsUrl := by
  obtain ⟨job, outcome, breakdown⟩ := course
  rcases outcome with _ | failure | ⟨trouble | text⟩
  · rfl
  · rfl
  · rfl
  · cases running

/-- A check fails as its course does, by cases on what broke the report off. -/
theorem result_failure? (course : Course ε)
    : course.result.failure? course.job.name = course.failure? := by
  obtain ⟨job, outcome, breakdown⟩ := course
  rcases breakdown with _ | ⟨trouble | text⟩
  · exact Outcome.failure?_ofFailure? job.name (outcome.failure? job.name)
  · rfl
  · rfl

/-- A course counts as a failure exactly if its job failed or its report was broken off.
Witness: by cases on what broke the report off.
-/
theorem failure?_eq_none_iff {course : Course ε} (running : course.outcome.cancellation? = none)
    (delivered : ∀ text, course.breakdown ≠ some (.cancelled text))
    : course.failure? = none ↔ course.outcome = .passed ∧ course.breakdown = none := by
  obtain ⟨job, outcome, breakdown⟩ := course
  rcases breakdown with _ | ⟨trouble | text⟩
  · simpa [failure?] using outcome.failure?_eq_none_iff job.name running
  · simp [failure?]
  · exact absurd rfl (delivered text)

/-- What the check of a course does: all that its job does, then the hand-over of its report, what
the reporter does with that, and the end of the delivery. Other checks may act anywhere in between.
-/
def Taken (reporter : Reporter ε) (report : Course ε → StatusReport) (course : Course ε)
    (acts : List Act)
    : Prop :=
  ∃ own deeds answer,
    course.job.work.Goes own course.outcome
    ∧ (reporter (report course)).Goes deeds answer
    ∧ Reporter.breakdown? answer = course.breakdown
    ∧ acts
      = own
        ++ .reported (report course)
          :: (deeds.map .did ++ [.delivered (report course) course.breakdown])

namespace Taken

variable {reporter : Reporter ε} {report : Course ε → StatusReport} {course : Course ε}
  {acts : List Act}

/-- No delivery that is never cancelled is broken off by a cancellation. -/
theorem uncancelled (taken : course.Taken reporter report acts) (reporting : reporter.Uncancelled)
    (text : String)
    : course.breakdown ≠ some (.cancelled text) := by
  obtain ⟨own, deeds, answer, _, answered, broken, _⟩ := taken
  rw [← broken]
  intro same
  rcases answer with breakdown | ⟨⟩
  · cases same
    exact reporting _ deeds text answered
  · cases same

/-- A job that reports nothing by itself shows the one report on it. -/
theorem reports (taken : course.Taken reporter report acts) (silent : course.job.Silent)
    : acts.filterMap Act.report? = [report course] := by
  obtain ⟨own, deeds, answer, ran, _, _, rfl⟩ := taken
  have quiet : own.filterMap Act.report? = [] :=
    List.filterMap_eq_nil_iff.mpr fun act member => ((silent own _ ran).1 act member).1
  have blind : ∀ deed, Act.report? (.did deed) = none := fun _ => rfl
  simp only [List.filterMap_append, List.filterMap_cons, quiet, Act.filterMap_did blind]
  rfl

/-- A job that reports nothing by itself shows the one delivery of the report on it. -/
theorem deliveries (taken : course.Taken reporter report acts) (silent : course.job.Silent)
    : acts.filterMap Act.delivery? = [(report course, course.breakdown)] := by
  obtain ⟨own, deeds, answer, ran, _, _, rfl⟩ := taken
  have quiet : own.filterMap Act.delivery? = [] :=
    List.filterMap_eq_nil_iff.mpr fun act member => ((silent own _ ran).1 act member).2
  have blind : ∀ deed, Act.delivery? (.did deed) = none := fun _ => rfl
  simp only [List.filterMap_append, List.filterMap_cons, quiet, Act.filterMap_did blind]
  rfl

/-- The check of a job shows the end of the job, with the outcome of the course. -/
theorem ends (taken : course.Taken reporter report acts) {executor : Executor ε} {spec : JobSpec}
    (job : course.job = spec.unit executor)
    : acts.filterMap Act.end? = [(spec, course.outcome)] := by
  obtain ⟨own, deeds, answer, ran, _, _, rfl⟩ := taken
  rw [job] at ran
  obtain ⟨ownDeeds, _, rfl⟩ := JobSpec.unit_goes ran
  have blind : ∀ deed, Act.end? (.did deed) = none := fun _ => rfl
  simp only [List.filterMap_append, List.filterMap_cons, Act.filterMap_did blind]
  rfl

end Taken

end Check.Course

/-- A course of a check that ends with no cancellation is a course of its job and of its report. -/
theorem Check.course_of_goes {reporter : Reporter ε} {event : Event} {project : Project}
    {detailsUrl : String} {job : UnitOfWork ε} {acts : List Act} {result : Outcome}
    (goes : ((Suite.checkOf event project detailsUrl job).unit reporter).work.Goes acts result)
    (settled : result.cancellation? = none)
    : ∃ course : Course ε,
        course.job = job
        ∧ course.outcome.cancellation? = none
        ∧ result = course.result
        ∧ course.Taken reporter (Course.report event project detailsUrl) acts := by
  obtain ⟨own, outcome, after, ran, concluding, rfl⟩ := unit_goes goes
  have running : outcome.cancellation? = none := by
    cases noted : outcome.cancellation? with
    | none => rfl
    | some text =>
        obtain ⟨_, rfl⟩ := conclude_cancelled noted concluding
        exact noted.symm.trans settled
  obtain ⟨deeds, answer, answered, rfl, rfl⟩ := conclude_reported running concluding
  let course : Course ε := ⟨job, outcome, Reporter.breakdown? answer⟩
  have reported : (Suite.checkOf event project detailsUrl job).report (outcome.failure? job.name)
      = course.report event project detailsUrl := course.report_eq running
  exact ⟨course, rfl, running, rfl, own, deeds, answer, ran, reported ▸ answered, rfl,
    reported ▸ rfl⟩

-----------------------------------------------------------------------------------------
-- Courses of a group
-----------------------------------------------------------------------------------------

/-- The checks of jobs, each on one course by stretches of its own. -/
structure Check.Courses (reporter : Reporter ε) (report : Course ε → StatusReport)
    (jobs : List (UnitOfWork ε)) (stretches : List Stretch) (courses : List (Course ε))
    : Prop where
  ofJobs : courses.map Course.job = jobs
  places : ∀ stretch ∈ stretches, stretch.place < jobs.length
  startedOnce : stretches.filterMap Stretch.start? = List.range jobs.length
  endedOnce
    : ((stretches.filterMap Stretch.end?).map Prod.fst).Perm (List.range jobs.length)
  running : ∀ course ∈ courses, course.outcome.cancellation? = none
  ended
    : ∀ (place : Nat) (course : Course ε),
        courses[place]? = some course
        → (place, course.result) ∈ stretches.filterMap Stretch.end?
  taken
    : ∀ (place : Nat) (course : Course ε),
        courses[place]? = some course
        → course.Taken reporter report (Stretch.actsAt place stretches)

/-- Without jobs there are no stretches and no courses. -/
theorem Check.Courses.of_none {reporter : Reporter ε} {report : Course ε → StatusReport}
    {stretches : List Stretch} {courses : List (Course ε)}
    (taken : Courses reporter report [] stretches courses)
    : stretches = [] ∧ courses = [] :=
  ⟨List.eq_nil_iff_forall_not_mem.mpr fun stretch member => Nat.not_lt_zero _
      (taken.places stretch member),
    List.map_eq_nil_iff.mp taken.ofJobs⟩

/-- If each item of a list brings another, these make up a list of their own. -/
theorem exists_each {α β : Type} {items : List α} {P : Nat → α → β → Prop}
    (each : ∀ place item, items[place]? = some item → ∃ other, P place item other)
    : ∃ others : List β,
        others.length = items.length
        ∧ ∀ (place : Nat) item other,
            items[place]? = some item → others[place]? = some other → P place item other := by
  have placed (place : Fin items.length) : ∃ other, P place items[place] other :=
    each place _ (List.getElem?_eq_getElem place.isLt)
  choose otherAt brought using placed
  refine ⟨List.ofFn otherAt, List.length_ofFn, ?_⟩
  intro place item other found there
  obtain ⟨within, rfl⟩ := List.getElem?_eq_some_iff.mp found
  obtain ⟨_, rfl⟩ := List.getElem?_eq_some_iff.mp there
  rw [List.getElem_ofFn]
  exact brought ⟨place, within⟩

/-- A list is what `f` makes of another if that holds at each place of the other, by the places of
both.
-/
theorem map_eq_of_places {α β : Type} {items : List α} {others : List β} (f : β → α)
    (length : others.length = items.length)
    (each : ∀ (place : Nat) other, others[place]? = some other → items[place]? = some (f other))
    : others.map f = items := by
  refine List.ext_getElem? fun place => ?_
  rw [List.getElem?_map]
  cases there : others[place]? with
  | some other => exact (each place other there).symm
  | none =>
      rw [List.getElem?_eq_none_iff, length] at there
      exact (List.getElem?_eq_none_iff.mpr there).symm

/-- The outcomes of checks that are run to completion, none of them a cancellation, are the results
of their courses. Witness: at each place, the course that the check has gone there.
-/
theorem Group.Completion.courses {reporter : Reporter ε} {event : Event} {project : Project}
    {detailsUrl : String} {jobs : List (UnitOfWork ε)} {state : ε} {stretches : List Stretch}
    {outcomes : List Outcome} {trace : Trace Act ε (Except Fault (Except Aggregate Unit))}
    (completion
      : Completion (jobs.map fun job => (Suite.checkOf event project detailsUrl job).unit reporter)
          state stretches outcomes trace)
    (settled : ∀ outcome ∈ outcomes, outcome.cancellation? = none)
    : ∃ courses : List (Check.Course ε),
        Check.Courses reporter (Check.Course.report event project detailsUrl) jobs stretches courses
        ∧ outcomes = courses.map Check.Course.result := by
  have count : outcomes.length = jobs.length := by
    rw [completion.length, List.length_map]
  have gone : ∀ place job, jobs[place]? = some job → ∃ course : Check.Course ε,
      course.job = job
      ∧ course.outcome.cancellation? = none
      ∧ outcomes[place]? = some course.result
      ∧ course.Taken reporter (Check.Course.report event project detailsUrl)
          (Stretch.actsAt place stretches) := by
    intro place job there
    obtain ⟨within, _⟩ := List.getElem?_eq_some_iff.mp there
    have came : outcomes[place]? = some outcomes[place] := List.getElem?_eq_getElem (count ▸ within)
    have goes := completion.course place _ _ (by rw [List.getElem?_map, there]; rfl) came
    obtain ⟨course, ofJob, running, result, taken⟩ :=
      Check.course_of_goes goes (settled _ (List.mem_of_getElem? came))
    exact ⟨course, ofJob, running, result ▸ came, taken⟩
  obtain ⟨courses, length, each⟩ := exists_each gone
  have all : ∀ (place : Nat) course, courses[place]? = some course →
      jobs[place]? = some course.job
      ∧ course.outcome.cancellation? = none
      ∧ outcomes[place]? = some course.result
      ∧ course.Taken reporter (Check.Course.report event project detailsUrl)
          (Stretch.actsAt place stretches) := by
    intro place course there
    obtain ⟨within, _⟩ := List.getElem?_eq_some_iff.mp there
    have found := List.getElem?_eq_getElem (length ▸ within : place < jobs.length)
    obtain ⟨ofJob, others⟩ := each place _ course found there
    exact ⟨found.trans (congrArg some ofJob.symm), others⟩
  refine ⟨courses, ?courses, ?results⟩
  case courses =>
    have places := completion.history.places
    simp only [List.map_nil, List.append_nil, places_zipIdx, List.length_map, List.mem_range]
      at places
    exact {
      ofJobs := map_eq_of_places _ length fun place course there => (all place course there).1
      places
      startedOnce := by rw [completion.startedOnce, List.length_map]
      endedOnce := by simpa only [List.length_map] using completion.endedOnce
      running := by
        intro course member
        obtain ⟨place, there⟩ := List.mem_iff_getElem?.mp member
        exact (all place course there).2.1
      ended := fun place course there =>
        (completion.outcome_iff place _).mp (all place course there).2.2.1
      taken := fun place course there => (all place course there).2.2.2
    }
  case results =>
    refine (map_eq_of_places _ (length.trans count.symm) fun place course there => ?_).symm
    exact (all place course there).2.2.1

/-- A group of checks that comes through takes a course for each job, and comes to the failures of
these.
-/
theorem Group.runAll_concludes (schedule : Schedule) (reporter : Reporter ε) (event : Event)
    (project : Project) (detailsUrl : String) (jobs : List (UnitOfWork ε)) (state : ε)
    : let checks := jobs.map fun job => (Suite.checkOf event project detailsUrl job).unit reporter
      let trace := (runAll schedule checks).trace state
      ∀ result,
        trace.value = .ok result
        → ∃ (stretches : List Stretch) (courses : List (Check.Course ε)),
            let failed := courses.filterMap Check.Course.failure?
            Check.Courses reporter (Check.Course.report event project detailsUrl) jobs stretches
              courses
            ∧ (∀ course ∈ courses, course.result.cancellation? = none)
            ∧ History checks.zipIdx [] state stretches trace.state
            ∧ result = verdict failed
            ∧ trace.acts = told jobs stretches failed := by
  intro checks trace result through
  by_cases empty : jobs = []
  · subst empty
    cases through
    exact ⟨[], [], ⟨rfl, nofun, rfl, .refl _, nofun, nofun, nofun⟩, nofun, .done, rfl, rfl⟩
  have nonempty : checks ≠ [] := by simpa [checks] using empty
  obtain ⟨stretches, outcomes, completion, settled⟩ :=
    runAll_through schedule nonempty state through
  obtain ⟨courses, taken, rfl⟩ := completion.courses settled
  have names : checks.map UnitOfWork.name = jobs.map UnitOfWork.name := by
    rw [List.map_map]
    rfl
  have failed
    : failuresInOrder ((checks.map UnitOfWork.name).zip (courses.map Check.Course.result))
      = courses.filterMap Check.Course.failure? := by
    rw [failuresInOrder_eq_filterMap, names, ← taken.ofJobs, List.map_map, List.zip_map',
      List.filterMap_map]
    exact List.filterMap_congr fun course _ => course.result_failure?
  obtain ⟨value, acts⟩ := completion.told nonempty
  refine ⟨stretches, courses, taken, List.forall_mem_map.mp settled, completion.history, ?_, ?_⟩
  · exact Except.ok.inj (through.symm.trans (failed ▸ value))
  · rw [acts, failed, told_congr names]

/-- A group of checks whose jobs and reports are never cancelled comes through. -/
theorem Group.runAll_checks_through (schedule : Schedule) {reporter : Reporter ε}
    (reporting : reporter.Uncancelled) (event : Event) (project : Project) (detailsUrl : String)
    {jobs : List (UnitOfWork ε)} (uncancelled : ∀ job ∈ jobs, job.Uncancelled) (state : ε)
    : ∃ result,
        ((runAll schedule
          (jobs.map fun job => (Suite.checkOf event project detailsUrl job).unit reporter)).trace
            state).value
          = .ok result := by
  by_cases empty : jobs = []
  · subst empty
    exact ⟨.ok (), rfl⟩
  have units
    : ∀ unit ∈ jobs.map fun job => (Suite.checkOf event project detailsUrl job).unit reporter,
      unit.Uncancelled :=
    List.forall_mem_map.mpr fun job member =>
      Check.unit_uncancelled reporting (uncancelled job member)
  obtain ⟨_, _, completion⟩ := runAll_completion schedule (by simpa using empty) units state
  exact ⟨_, completion.value⟩

/-- What a group tells of jobs with no stretches without them is but the messages of the group. -/
theorem Group.told_eq {jobs : List (UnitOfWork ε)} {stretches : List Stretch}
    {failed : List UnitFailure} (none : jobs = [] → stretches = [] ∧ failed = [])
    : told jobs stretches failed
      = ((if jobs.isEmpty then [] else [opening jobs]).map fun message => .did (.wrote message))
        ++ stretches.flatMap Stretch.acts
        ++ (closing jobs.length failed).map fun message => .did (.wrote message) := by
  by_cases empty : jobs = []
  · obtain ⟨rfl, rfl⟩ := none empty
    simp [told, empty, closing]
  · simp [told, empty]

section Views

variable {reporter : Reporter ε} {event : Event} {project : Project} {detailsUrl : String}
  {jobs : List (UnitOfWork ε)} {state final : ε} {stretches : List Stretch}
  {courses : List (Check.Course ε)}

/-- What shows of the acts of each course once shows of all of them once for each, in some order. -/
theorem Check.Courses.view_perm
    (taken
      : Check.Courses reporter (Check.Course.report event project detailsUrl) jobs stretches
        courses)
    (history
      : History
          (jobs.map fun job => (Suite.checkOf event project detailsUrl job).unit reporter).zipIdx []
          state stretches final)
    {view : Act → Option α} {shown : List α} (length : shown.length = jobs.length)
    (shows
      : ∀ (place : Nat) course,
          courses[place]? = some course
          → ∀ acts,
              course.Taken reporter (Check.Course.report event project detailsUrl) acts
              → ∃ item, shown[place]? = some item ∧ acts.filterMap view = [item])
    : ((stretches.flatMap Stretch.acts).filterMap view).Perm shown := by
  have count : jobs.length = courses.length := by rw [← taken.ofJobs, List.length_map]
  have different : ((jobs.map fun job =>
      (Suite.checkOf event project detailsUrl job).unit reporter).zipIdx.map Prod.snd).Nodup :=
    Group.places_zipIdx _ ▸ List.nodup_range
  have all := history.view_places different view
    (fun place => (shown[place]?.map fun item => [item]).getD []) (by
      intro place member
      rw [Group.places_zipIdx, List.length_map, count, List.mem_range] at member
      have there := List.getElem?_eq_getElem member
      obtain ⟨item, found, acts⟩ := shows place _ there _ (taken.taken place _ there)
      rw [found, acts]
      rfl)
  rwa [Group.places_zipIdx, List.length_map, ← length, range_flatMap, List.flatMap_singleton']
    at all

end Views

-----------------------------------------------------------------------------------------
-- Delivery
-----------------------------------------------------------------------------------------

namespace Suite

/-- How the reports on the checks of jobs are delivered. The checks run from where their building
left off. Each takes one course by stretches of its own, in which its report follows the end of its
job; no warning of the group comes before all of them. The checks that fail are those whose job
failed or whose own report was broken off.
-/
structure Delivers (services : Services ε) (factories : List (Factory ε)) (event : Event)
    (project : Project) (state : ε) (detailsUrl : String) (jobs : List (UnitOfWork ε))
    (stretches : List Stretch) (courses : List (Check.Course ε))
    (trace : Trace Act ε (Except Fault (Except Aggregate Unit)))
    : Prop
    extends
      Check.Courses services.reporter (Check.Course.report event project detailsUrl) jobs stretches
        courses where
  history
    : History
        (jobs.map fun job => (checkOf event project detailsUrl job).unit services.reporter).zipIdx
        [] (Attempt.trace (factories.mapM Factory.run) state).state stretches trace.state
  acts
    : trace.acts
      = (factories.map fun factory => .built factory.key)
        ++ ((if jobs.isEmpty then [] else [Group.opening jobs]).map fun message =>
            .did (.wrote message))
        ++ stretches.flatMap Stretch.acts
        ++ (Group.closing jobs.length (courses.filterMap Check.Course.failure?)).map fun message =>
            .did (.wrote message)
  reported
    : (∀ job ∈ jobs, job.Silent)
      → (trace.acts.filterMap Act.report?).Perm
          (courses.map (Check.Course.report event project detailsUrl))
  delivered
    : (∀ job ∈ jobs, job.Silent)
      → (trace.acts.filterMap Act.delivery?).Perm
          (courses.map fun course =>
            (course.report event project detailsUrl, course.breakdown))
  jobsOnce
    : ∀ executor specs,
        jobs = specs.map (JobSpec.unit executor)
        → trace.acts.filterMap Act.start? = specs
          ∧ (trace.acts.filterMap Act.end?).Perm
              (specs.zip (courses.map Check.Course.outcome))
  value
    : trace.value
      = .ok
          (match courses.filterMap Check.Course.failure? with
          | [] => .ok ()
          | first :: rest => .error { first, place := some 0, failures := first :: rest })
  failed_iff
    : ∀ course ∈ courses,
        course.failure? ≠ none ↔ course.outcome ≠ .passed ∨ course.breakdown ≠ none
  alone
    : ∀ (own : UnitOfWork ε → Outcome) (answer : StatusReport → Option Breakdown),
        (∀ job ∈ jobs, job.EndsAs (own job))
        → (∀ report deeds last,
            (services.reporter report).Goes deeds last → Reporter.breakdown? last = answer report)
        → ∀ course ∈ courses,
            course.outcome = own course.job
            ∧ course.breakdown = answer (course.report event project detailsUrl)

/-- Every check is reported exactly once, whatever becomes of the jobs and of the other reports.
Checks whose jobs and reports are never cancelled are delivered: each takes a course of its own.
Witness: the courses of the group, and what shows of their acts.
-/
theorem runChecks_delivers {services : Services ε} (reporting : services.reporter.Uncancelled)
    {event : Event} (project : Project) {detailsUrl : String}
    (shown : services.detailsUrl event.buildId = .ok detailsUrl)
    {factories : List (Factory ε)} {jobs : List (UnitOfWork ε)} {state : ε}
    (building : (Attempt.trace (factories.mapM Factory.run) state).value = .ok jobs)
    (uncancelled : ∀ job ∈ jobs, job.Uncancelled)
    : ∃ stretches courses,
        Delivers services factories event project state detailsUrl jobs stretches courses
          ((runChecks services factories event project).trace state) := by
  have starting := runChecks_starts_as project shown building .fair state
  rw [runChecks_built services project shown building] at starting ⊢
  generalize left : (Attempt.trace (factories.mapM Factory.run) state).state = ready at starting ⊢
  obtain ⟨result, through⟩ :=
    Group.runAll_checks_through services.schedule reporting event project detailsUrl uncancelled
      ready
  obtain ⟨stretches, courses, taken, -, history, rfl, told⟩ :=
    Group.runAll_concludes services.schedule services.reporter event project detailsUrl jobs ready _
      through
  have count : courses.length = jobs.length := by rw [← taken.ofJobs, List.length_map]
  have acts : _ = _ := told.trans (Group.told_eq (by
    rintro rfl
    obtain ⟨rfl, rfl⟩ := taken.of_none
    exact ⟨rfl, rfl⟩))
  -- the messages of the group and the building of checks show in none of the views
  have shows : ∀ {α : Type} {view : Act → Option α}, (∀ deed, view (.did deed) = none)
      → (∀ key, view (.built key) = none)
      → (((Group.runAll services.schedule (jobs.map fun job =>
            (checkOf event project detailsUrl job).unit services.reporter)).trace ready).behind
              (factories.map fun factory => .built factory.key)).acts.filterMap view
        = (stretches.flatMap Stretch.acts).filterMap view := by
    intro α view blind unbuilt
    rw [Trace.behind_acts, acts, List.filterMap_append, List.filterMap_append,
      List.filterMap_append, Factory.built_view unbuilt, Act.filterMap_wrote blind,
      Act.filterMap_wrote blind, List.nil_append, List.nil_append, List.append_nil]
  refine ⟨stretches, courses, ?_⟩
  exact {
    toCourses := taken
    history := left ▸ history
    acts := by simp only [Trace.behind_acts, acts, List.append_assoc]
    reported := by
      intro silent
      rw [shows (fun _ => rfl) fun _ => rfl]
      refine taken.view_perm history (by rw [List.length_map, count]) ?_
      intro place course there acts gone
      have job := silent course.job
        (taken.ofJobs ▸ List.mem_map_of_mem (List.mem_of_getElem? there))
      exact ⟨_, by rw [List.getElem?_map, there]; rfl, gone.reports job⟩
    delivered := by
      intro silent
      rw [shows (fun _ => rfl) fun _ => rfl]
      refine taken.view_perm history (by rw [List.length_map, count]) ?_
      intro place course there acts gone
      have job := silent course.job
        (taken.ofJobs ▸ List.mem_map_of_mem (List.mem_of_getElem? there))
      exact ⟨_, by rw [List.getElem?_map, there]; rfl, gone.deliveries job⟩
    jobsOnce := by
      rintro executor specs described
      refine ⟨(starting executor specs described).1, ?_⟩
      rw [shows (fun _ => rfl) fun _ => rfl]
      refine taken.view_perm history ?_ ?_
      · rw [List.length_zip, List.length_map, count, described, List.length_map, Nat.min_self]
      intro place course there acts gone
      have job : (specs.map (JobSpec.unit executor))[place]? = some course.job := by
        rw [← described, ← taken.ofJobs, List.getElem?_map, there]
        rfl
      obtain ⟨spec, found, same⟩ := Option.map_eq_some_iff.mp (List.getElem?_map .. ▸ job)
      refine ⟨(spec, course.outcome), ?_, gone.ends same.symm⟩
      rw [List.getElem?_zip_eq_some, List.getElem?_map, there]
      exact ⟨found, rfl⟩
    value := by
      rw [Trace.behind_value, through]
      cases courses.filterMap Check.Course.failure? <;> rfl
    failed_iff := by
      intro course member
      obtain ⟨place, there⟩ := List.mem_iff_getElem?.mp member
      have delivered := (taken.taken place course there).uncancelled reporting
      rw [ne_eq, course.failure?_eq_none_iff (taken.running course member) delivered, not_and_or]
    alone := by
      intro own answer settled answers course member
      obtain ⟨place, there⟩ := List.mem_iff_getElem?.mp member
      obtain ⟨_, deeds, last, ran, answered, broken, _⟩ := taken.taken place course there
      have job := settled course.job (taken.ofJobs ▸ List.mem_map_of_mem member)
      exact ⟨job _ _ ran, broken.symm.trans (answers _ deeds last answered)⟩
  }

/-- What takes reports, but breaks off those on a check of the given name. -/
def offlineFor (name : String) : Reporter Unit := fun report =>
  if report.check = name then return .error (.trouble ⟨"RuntimeError", "offline"⟩)
  else Reporter.console report

/-- No report is cancelled, whether or not it is broken off. -/
theorem offlineFor_uncancelled (name : String) : (offlineFor name).Uncancelled := by
  intro report deeds text goes
  unfold offlineFor at goes
  split at goes
  · cases goes.of_pure.2
  · cases (Reporter.console_goes goes).2

/-- The report on the check that passes is broken off while the others are under way, and nothing
else changes.
-/
theorem runChecks_delivers_offline
    : let services := { Handlers.rehearsal with
        reporter := .later (offlineFor "test"), schedule := fun count => count + 1 }
      let factories := Group.namesakes.map (Factory.ofUnit "check")
      let event := Handlers.branchEvent
      let project := Release.equipped
      let trace := (runChecks services factories event project).trace ()
      let style : UnitFailure := ⟨"lint", "style", some 2⟩
      services.reporter.Uncancelled
      ∧ (∀ job ∈ Group.namesakes, job.Uncancelled ∧ job.Silent)
      ∧ ∃ detailsUrl stretches courses,
          services.detailsUrl event.buildId = .ok detailsUrl
          ∧ Delivers services factories event project () detailsUrl Group.namesakes stretches
              courses trace
          ∧ trace.value
            = .ok (.error (.ofFailures style
                [⟨"lint", "OSError: disk", none⟩, ⟨"test", "RuntimeError: offline", none⟩]))
          ∧ (trace.acts.filterMap Act.report?).length = 3 := by
  intro services factories event project trace style
  have reporting : services.reporter.Uncancelled := (offlineFor_uncancelled "test").later
  have shown
    : services.detailsUrl event.buildId
      = .ok "https://brigadecore.github.io/kashti/builds/b7" := by cbv
  have jobs : ∀ job ∈ Group.namesakes, job.Uncancelled ∧ job.Silent := by
    intro job member
    simp only [Group.namesakes, List.mem_cons, List.not_mem_nil, or_false] at member
    have marks : ∀ name behaviour,
        (UnitOfWork.ofBehaviour name behaviour : UnitOfWork Unit).Silent := by
      intro name behaviour acts outcome goes
      obtain ⟨rfl, _⟩ := Group.ofBehaviour_goes goes
      simp [Act.report?, Act.delivery?]
    rcases member with rfl | rfl | rfl
    all_goals exact ⟨fun _ _ goes => (Group.ofBehaviour_goes goes).2 ▸ rfl, marks _ _⟩
  obtain ⟨stretches, courses, delivers⟩ :
      ∃ stretches courses,
        Delivers services factories event project () _ Group.namesakes stretches courses trace :=
    runChecks_delivers reporting project shown rfl fun job member => (jobs job member).1
  have reported := (delivers.reported fun job member => (jobs job member).2).length_eq
  refine ⟨reporting, jobs, _, stretches, courses, shown, delivers, by decide +kernel, ?_⟩
  rw [reported, List.length_map, ← List.length_map Check.Course.job, delivers.ofJobs]
  rfl

end Suite

end Conductor
