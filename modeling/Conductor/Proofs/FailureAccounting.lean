import Conductor.Proofs.EdgePublish
import Mathlib.Data.List.Induction

/-! Failures are accounted for. What units of work, groups and releases come to is a failure exactly
if what they did shows one: a job that did not pass, or a report that was broken off. The images of
the mainline are the exception.
-/

namespace Conductor

variable {ε α β : Type}

-----------------------------------------------------------------------------------------
-- Failures that acts show
-----------------------------------------------------------------------------------------

/-- The images of the mainline are being published: nothing but deeds has come since the job
started, directly behind the message that announces it.
-/
def PublishesEdge (before : List Act) (spec : JobSpec) : Prop :=
  spec.name = "build-and-publish-images"
  ∧ ∃ (earlier : List Act) (deeds : List Deed),
      before
      = earlier
        ++ .did (.wrote (.dim "mainline build: publishing edge images"))
          :: .started spec :: deeds.map .did

/-- An act that shows a failure behind others: the end of a job that did not pass, unless it was to
publish the images of the mainline, or the end of a delivery that was broken off.
-/
def Act.FailsBehind (before : List Act) : Act → Prop
  | .ended spec outcome => outcome ≠ .passed ∧ ¬PublishesEdge before spec
  | .delivered _ breakdown => breakdown ≠ none
  | _ => False

/-- Whether acts that come behind others show a failure. -/
def ShowsFailure (before : List Act) : List Act → Prop
  | [] => False
  | act :: rest => act.FailsBehind before ∨ ShowsFailure (before ++ [act]) rest

section Shows

variable (before rest : List Act)

@[simp]
theorem showsFailure_nil : ShowsFailure before [] ↔ False := .rfl

@[simp]
theorem showsFailure_did (deed : Deed)
    : ShowsFailure before (.did deed :: rest) ↔ ShowsFailure (before ++ [.did deed]) rest := by
  simp [ShowsFailure, Act.FailsBehind]

@[simp]
theorem showsFailure_built (key : String)
    : ShowsFailure before (.built key :: rest) ↔ ShowsFailure (before ++ [.built key]) rest := by
  simp [ShowsFailure, Act.FailsBehind]

@[simp]
theorem showsFailure_started (spec : JobSpec)
    : ShowsFailure before (.started spec :: rest)
      ↔ ShowsFailure (before ++ [.started spec]) rest := by
  simp [ShowsFailure, Act.FailsBehind]

@[simp]
theorem showsFailure_reported (report : StatusReport)
    : ShowsFailure before (.reported report :: rest)
      ↔ ShowsFailure (before ++ [.reported report]) rest := by
  simp [ShowsFailure, Act.FailsBehind]

@[simp]
theorem showsFailure_delivered (report : StatusReport) (breakdown : Option Breakdown)
    : ShowsFailure before [.delivered report breakdown] ↔ breakdown ≠ none := by
  simp [ShowsFailure, Act.FailsBehind]

end Shows

/-- Acts in a row show the failures that their parts show, by induction on the first part. -/
theorem showsFailure_append (before first second : List Act)
    : ShowsFailure before (first ++ second)
      ↔ ShowsFailure before first ∨ ShowsFailure (before ++ first) second := by
  induction first generalizing before with
  | nil => simp [ShowsFailure]
  | cons act rest ih =>
      rw [List.cons_append, ShowsFailure, ShowsFailure, ih, or_assoc, List.append_assoc,
        List.singleton_append]

/-- Deeds show no failure, by induction on them. -/
@[simp]
theorem not_showsFailure_deeds (before : List Act) (deeds : List Deed)
    : ¬ShowsFailure before (deeds.map .did) := by
  induction deeds generalizing before with
  | nil => exact id
  | cons deed rest ih =>
      rw [List.map_cons, showsFailure_did]
      exact ih _

@[simp]
theorem not_showsFailure_wrote (before : List Act) (messages : List Message)
    : ¬ShowsFailure before (messages.map fun message => .did (.wrote message)) := by
  have deeds := not_showsFailure_deeds before (messages.map Deed.wrote)
  rwa [List.map_map] at deeds

/-- The building of checks shows no failure, by induction on them. -/
theorem not_showsFailure_built (before : List Act) (specs : List JobSpec)
    : ¬ShowsFailure before (specs.map fun spec => .built spec.name) := by
  induction specs generalizing before with
  | nil => exact id
  | cons spec rest ih =>
      rw [List.map_cons, showsFailure_built]
      exact ih _

/-- Acts show a failure exactly if one of them does so behind those before it, by induction. -/
theorem showsFailure_iff (before acts : List Act)
    : ShowsFailure before acts
      ↔ ∃ first act last, acts = first ++ act :: last ∧ act.FailsBehind (before ++ first) := by
  induction acts generalizing before with
  | nil => simp [ShowsFailure]
  | cons act rest ih =>
      rw [ShowsFailure, ih]
      constructor
      · rintro (fails | ⟨first, other, last, rfl, fails⟩)
        · exact ⟨[], act, rest, rfl, by simpa using fails⟩
        · exact ⟨act :: first, other, last, rfl, by simpa using fails⟩
      · rintro ⟨first, other, last, split, fails⟩
        cases first with
        | nil =>
            cases split
            exact Or.inl (by simpa using fails)
        | cons head first =>
            cases split
            exact Or.inr ⟨first, other, last, rfl, by simpa using fails⟩

/-- The end of a job that does not publish the images of the mainline shows whether it failed. -/
theorem showsFailure_ended {before : List Act} {spec : JobSpec} (outcome : Outcome)
    (other : ¬PublishesEdge before spec)
    : ShowsFailure before [.ended spec outcome] ↔ outcome ≠ .passed := by
  simp [ShowsFailure, Act.FailsBehind, other]

theorem showsFailure_ended_edge {before rest : List Act} {spec : JobSpec} {outcome : Outcome}
    (edge : PublishesEdge before spec)
    : ShowsFailure before (.ended spec outcome :: rest)
      ↔ ShowsFailure (before ++ [.ended spec outcome]) rest := by
  simp [ShowsFailure, Act.FailsBehind, edge]

-----------------------------------------------------------------------------------------
-- Units of work
-----------------------------------------------------------------------------------------

/-- Acts that spare the images show a failure exactly if one of them does on its own, by induction.
-/
theorem showsFailure_of_spares {before acts : List Act}
    (spares : ∀ act ∈ acts, act.Spares Catalog.imagesName)
    : ShowsFailure before acts ↔ ∃ act ∈ acts, act.FailsBehind [] := by
  induction acts generalizing before with
  | nil => simp
  | cons act rest ih =>
      obtain ⟨own, others⟩ := List.forall_mem_cons.mp spares
      rw [ShowsFailure, ih others, List.exists_mem_cons_iff]
      refine or_congr_left ?_
      cases act with
      | ended spec outcome =>
          have apart : ∀ earlier, ¬PublishesEdge earlier spec :=
            fun _ edge => own (congrArg some edge.1)
          simp [Act.FailsBehind, apart]
      | _ => rfl

/-- A unit that accounts for its failures: it spares the images, and unless it is cancelled, it
passes exactly if none of what it does shows a failure.
-/
structure UnitOfWork.Accounts (unit : UnitOfWork ε) : Prop where
  spares : unit.Every (Act.Spares Catalog.imagesName)
  course
    : ∀ acts outcome,
        unit.work.Goes acts outcome
        → outcome.cancellation? = none
        → ((∃ act ∈ acts, act.FailsBehind []) ↔ outcome ≠ .passed)

/-- A job on its course shows a failure at its end alone. -/
theorem exists_failure_job {spec : JobSpec} {deeds : List Deed} {outcome : Outcome}
    : (∃ act ∈ Act.started spec :: (deeds.map .did ++ [.ended spec outcome]), act.FailsBehind [])
      ↔ outcome ≠ .passed := by
  have none : ¬∃ act ∈ deeds.map Act.did, act.FailsBehind [] := by
    rintro ⟨_, member, fails⟩
    obtain ⟨deed, _, rfl⟩ := List.mem_map.mp member
    exact fails
  simp only [List.exists_mem_cons_iff, List.mem_append, or_and_right, exists_or, none, false_or,
    List.mem_singleton, exists_eq_left]
  simp [Act.FailsBehind, PublishesEdge]

/-- A job accounts for its failure, unless it goes by the name of the images. -/
theorem JobSpec.unit_accounts (executor : Executor ε) {spec : JobSpec}
    (other : spec.name ≠ Catalog.imagesName)
    : (spec.unit executor).Accounts where
  spares := JobSpec.unit_spares executor other
  course acts outcome goes _ := by
    obtain ⟨deeds, _, rfl⟩ := unit_goes goes
    exact exists_failure_job

/-- What a unit on its own has done shows a failure exactly if it does not pass. -/
theorem UnitOfWork.Accounts.run {unit : UnitOfWork ε} (accounts : unit.Accounts)
    (before : List Act) (state : ε)
    (running : (unit.run.trace state).value.cancellation? = none)
    : ShowsFailure before (unit.run.trace state).acts
      ↔ (unit.run.trace state).value ≠ .passed := by
  have goes := unit.run_goes state
  rw [showsFailure_of_spares (accounts.spares _ _ goes).1]
  exact accounts.course _ _ goes running

/-- A check accounts for the failure of its job and of its report.
Witness: the failures that show are that of the job, and behind it that of the delivery.
-/
theorem Check.unit_accounts (reporter : Reporter ε) {executor : Executor ε} {check : Check ε}
    {spec : JobSpec} (job : check.job = spec.unit executor) (other : spec.name ≠ Catalog.imagesName)
    : (check.unit reporter).Accounts where
  spares := Check.unit_spares reporter executor job other
  course := by
    intro acts last goes settled
    obtain ⟨own, outcome, after, running, concluding, rfl⟩ := unit_goes goes
    rw [job] at running
    obtain ⟨deeds, _, rfl⟩ := JobSpec.unit_goes running
    cases cancelled : outcome.cancellation? with
    | some text =>
        obtain ⟨_, rfl⟩ := conclude_cancelled cancelled concluding
        rw [cancelled] at settled
        cases settled
    | none =>
        obtain ⟨reported, answer, _, rfl, rfl⟩ := conclude_reported cancelled concluding
        have none : ¬∃ act ∈ reported.map Act.did, act.FailsBehind [] := by
          rintro ⟨_, member, fails⟩
          obtain ⟨deed, _, rfl⟩ := List.mem_map.mp member
          exact fails
        rw [ne_eq, result_eq_passed_iff cancelled, not_and_or]
        simp only [List.mem_append, or_and_right, exists_or,
          List.exists_mem_cons_iff, none, false_or, List.mem_singleton, exists_eq_left]
        simp [Act.FailsBehind, PublishesEdge]

theorem UnitOfWork.idle_accounts (name : String)
    : (UnitOfWork.idle name : UnitOfWork ε).Accounts where
  spares := Async.Within.pure trivial
  course acts outcome goes _ := by
    obtain ⟨rfl, rfl⟩ := goes.of_pure
    simp

-----------------------------------------------------------------------------------------
-- Attempts
-----------------------------------------------------------------------------------------

/-- An attempt that accounts for its failures: if it comes through, its value is a failure exactly
if what it did shows one.
-/
def Attempt.Accounts (failed : α → Prop) (attempt : Attempt ε α) : Prop :=
  ∀ before state value,
    (attempt.trace state).value = .ok value
    → (ShowsFailure before (attempt.trace state).acts ↔ failed value)

namespace Attempt.Accounts

variable {failed : α → Prop} {failed' : β → Prop}

theorem pure {value : α} (fine : ¬failed value)
    : (pure value : Attempt ε α).Accounts failed := by
  intro before state other same
  cases same
  exact iff_of_false id fine

/-- Messages show no failure, and what follows them accounts for its own. -/
theorem write_bind (messages : List Message) {next : Unit → Attempt ε β}
    (after : (next ()).Accounts failed')
    : (write messages >>= next).Accounts failed' := by
  intro before state value through
  rw [trace_write_bind] at through ⊢
  rw [Trace.behind_acts, showsFailure_append, after _ _ value through]
  simp [not_showsFailure_wrote]

/-- An attempt in two parts accounts for its failures if the parts do, and a failure of the first
part is one of the whole.
-/
theorem bind {first : Attempt ε α} {next : α → Attempt ε β} (before : first.Accounts failed)
    (stays
      : ∀ value,
          failed value
          → ∀ state other, ((next value).trace state).value = .ok other → failed' other)
    (after : ∀ value, ¬failed value → (next value).Accounts failed')
    : (first >>= next).Accounts failed' := by
  intro earlier state other through
  rcases trace_bind_cases first next state with ⟨fault, _, ended⟩ | ⟨value, came, ended⟩
  · rw [ended] at through
    cases through
  rw [ended] at through ⊢
  rw [Trace.behind_acts, showsFailure_append, before _ _ value came]
  by_cases failure : failed value
  · exact iff_of_true (Or.inl failure) (stays value failure _ other through)
  · rw [after value failure _ _ other through]
    simp [failure]

end Attempt.Accounts

-----------------------------------------------------------------------------------------
-- Groups
-----------------------------------------------------------------------------------------

namespace Group

/-- A group accounts for the failures of its units.
Witness: what is done on the courses of the units shows the failures of these, in any order.
-/
theorem runAll_accounts (schedule : Schedule) {units : List (UnitOfWork ε)}
    (each : ∀ unit ∈ units, unit.Accounts)
    : (runAll schedule units).Accounts (· ≠ .ok ()) := by
  intro before state result through
  by_cases empty : units = []
  · subst empty
    cases through
    exact iff_of_false id fun differs => differs rfl
  obtain ⟨stretches, outcomes, completion, settled⟩ := runAll_through schedule empty state through
  have spares : ∀ act ∈ stretches.flatMap Stretch.acts, act.Spares Catalog.imagesName := by
    intro act member
    obtain ⟨unit, known, outcome, _, acts, goes, within⟩ := completion.mem_course member
    exact ((each unit known).spares acts outcome goes).1 act within
  have shows : (∃ act ∈ stretches.flatMap Stretch.acts, act.FailsBehind [])
      ↔ ¬∀ outcome ∈ outcomes, outcome = .passed := by
    constructor
    · rintro ⟨act, member, fails⟩ passed
      obtain ⟨unit, known, outcome, came, acts, goes, within⟩ := completion.mem_course member
      exact ((each unit known).course acts outcome goes (settled outcome came)).mp
        ⟨act, within, fails⟩ (passed outcome came)
    · intro failed
      push Not at failed
      obtain ⟨outcome, came, differs⟩ := failed
      obtain ⟨unit, known, acts, goes, part⟩ := completion.course_of_mem came
      obtain ⟨act, within, fails⟩ :=
        ((each unit known).course acts outcome goes (settled outcome came)).mpr differs
      exact ⟨act, part within, fails⟩
  have passed := completion.passed_iff settled
  rw [through, Except.ok.injEq] at passed
  have closing : ∀ earlier failed, ¬ShowsFailure earlier
      ((closing units.length failed).map fun message => .did (.wrote message)) := by simp
  rw [completion.acts, showsFailure_did, List.append_assoc, showsFailure_append, ← closing_acts,
    showsFailure_of_spares spares, shows, ← passed]
  simp only [closing, or_false, ne_eq]

/-- A unit that accounts for its failures behind the message that announces it in a sequence. -/
def AccountsInSequence (unit : UnitOfWork ε) : Prop :=
  ∀ before place count state,
    (unit.run.trace state).value.cancellation? = none
    → (ShowsFailure before (stepAct place count unit.name :: (unit.run.trace state).acts)
      ↔ (unit.run.trace state).value ≠ .passed)

theorem AccountsInSequence.of_accounts {unit : UnitOfWork ε} (accounts : unit.Accounts)
    : AccountsInSequence unit := by
  intro before place count state running
  rw [stepAct, showsFailure_did]
  exact accounts.run _ state running

/-- A sequence accounts for the failures of its units, by induction on the units. -/
theorem runFrom_accounts (count done : Nat) {units : List (UnitOfWork ε)}
    (each : ∀ unit ∈ units, AccountsInSequence unit)
    : (runFrom count done units).Accounts (· ≠ .ok ()) := by
  induction units generalizing done with
  | nil => exact .pure fun differs => differs rfl
  | cons unit rest ih =>
      obtain ⟨first, others⟩ := List.forall_mem_cons.mp each
      intro before state result through
      rcases Outcome.settled unit.name (unit.run.trace state).value with
        passed | ⟨failure, failed⟩ | ⟨text, cancelled⟩
      · rw [runFrom_passed count done unit rest state passed] at through ⊢
        have shows := first before (done + 1) count state (by rw [passed]; rfl)
        rw [Trace.behind_acts, showsFailure_append, shows, ih (done + 1) others _ _ result through]
        simp [passed]
      · rw [runFrom_failed count done unit rest state failed] at through ⊢
        cases through
        have shows := first before (done + 1) count state (Outcome.cancellation?_of_failure? failed)
        have different : (unit.run.trace state).value ≠ .passed := by
          intro passed
          rw [passed] at failed
          cases failed
        rw [← List.cons_append, showsFailure_append, shows]
        exact iff_of_true (Or.inl different) nofun
      · rw [runFrom_cancelled count done unit rest state cancelled] at through
        cases through

end Group

/-- A unit that is settled accounts for its failure. -/
theorem settle_accounts {unit : UnitOfWork ε} (accounts : unit.Accounts)
    : (settle unit).Accounts (· ≠ none) := by
  intro before state failure through
  cases cancelled : (unit.run.trace state).value.cancellation? with
  | some text =>
      rw [settle_cancelled unit state cancelled] at through
      cases through
  | none =>
      rw [settle_trace unit state cancelled] at through ⊢
      cases through
      rw [accounts.run before state cancelled]
      exact (not_congr (Outcome.failure?_eq_none_iff _ unit.name cancelled)).symm

-----------------------------------------------------------------------------------------
-- Images
-----------------------------------------------------------------------------------------

/-- What comes before the last start of a job, with deeds alone behind it, is determined.
Witness: induction on the deeds from the end, as no deed is a start.
-/
theorem started_deeds_inj {first second : List Act} {spec spec' : JobSpec}
    {deeds deeds' : List Deed}
    (same : first ++ .started spec :: deeds.map .did = second ++ .started spec' :: deeds'.map .did)
    : first = second := by
  induction deeds using List.reverseRecOn generalizing deeds' with
  | nil =>
      rcases List.eq_nil_or_concat deeds' with rfl | ⟨others, last, rfl⟩
      · exact List.append_inj_left' same rfl
      · rw [List.concat_eq_append, List.map_append, ← List.cons_append, ← List.append_assoc] at same
        cases List.append_inj_right' same rfl
  | append_singleton rest last ih =>
      rw [List.map_append, ← List.cons_append, ← List.append_assoc] at same
      rcases List.eq_nil_or_concat deeds' with rfl | ⟨others, last', rfl⟩
      · cases List.append_inj_right' same rfl
      · rw [List.concat_eq_append, List.map_append, ← List.cons_append, ← List.append_assoc] at same
        exact ih (List.append_inj_left' same rfl)

/-- The announcement of a stage is not that of the images of the mainline, by its first letter. -/
theorem stepAct_ne_edge (place count : Nat) (name : String)
    : Group.stepAct place count name
      ≠ .did (.wrote (.dim "mainline build: publishing edge images")) := by
  intro same
  simp only [Group.stepAct, Group.stepLine, Message.dim, Act.did.injEq, Deed.wrote.injEq,
    Message.print.injEq, true_and] at same
  have heads := congrArg (fun text : String => text.toList.head?) same
  simp [String.toList_append] at heads

/-- No job that a sequence has announced publishes the images of the mainline.
Witness: what comes directly before the job is the announcement of the sequence.
-/
theorem not_publishesEdge_step (before : List Act) (place count : Nat) (name : String)
    (spec : JobSpec) (deeds : List Deed)
    : ¬PublishesEdge
        (before ++ [Group.stepAct place count name] ++ .started spec :: deeds.map .did) spec := by
  rintro ⟨_, earlier, others, same⟩
  have regrouped : before ++ [Group.stepAct place count name] ++ .started spec :: deeds.map .did
      = earlier ++ [.did (.wrote (.dim "mainline build: publishing edge images"))]
        ++ .started spec :: others.map .did := by
    simpa using same
  have announced := List.append_inj_right' (started_deeds_inj regrouped) rfl
  exact stepAct_ne_edge place count name (List.singleton_inj.mp announced)

/-- Any job accounts for its failure behind the announcement of a sequence. -/
theorem JobSpec.unit_accountsInSequence (executor : Executor ε) (spec : JobSpec)
    : Group.AccountsInSequence (spec.unit executor) := by
  intro before place count state _
  obtain ⟨deeds, acts⟩ := unit_run executor spec state
  have announced := not_publishesEdge_step before place count spec.name spec deeds
  rw [acts, Group.stepAct, showsFailure_did, showsFailure_started, showsFailure_append,
    showsFailure_ended _ (by simpa [Group.stepAct, JobSpec.unit] using announced)]
  simp

/-- The publishing of the images of the mainline shows no failure, however the job ends. -/
theorem Suite.publishEdge_accounts (services : Services ε) (project : Project)
    : (publishEdge services project).Accounts fun _ => False := by
  intro before state value through
  let images := services.unit (Catalog.publishImages services.config project "")
  cases cancelled : (images.run.trace state).value.cancellation? with
  | some text =>
      have settled := settle_cancelled images state cancelled
      simp only [publishEdge, Attempt.trace_write_bind, Trace.behind_value] at through
      rw [Attempt.trace_bind_error settled] at through
      cases through
  | none =>
      obtain ⟨_, deeds, outcome, acts⟩ := publishEdge_trace services project state cancelled
      have edge : PublishesEdge
          (before ++ [.did (.wrote (.dim "mainline build: publishing edge images"))]
            ++ [.started (Catalog.publishImages services.config project "")] ++ deeds.map .did)
          (Catalog.publishImages services.config project "") :=
        ⟨rfl, before, deeds, by simp⟩
      rw [acts, edgeActs, showsFailure_did, showsFailure_started, showsFailure_append,
        showsFailure_ended_edge edge]
      simp only [not_showsFailure_deeds, not_showsFailure_wrote, or_self]

-----------------------------------------------------------------------------------------
-- Releases and suites
-----------------------------------------------------------------------------------------

/-- The exit code of a run that comes to a result. -/
def exitCode : Except Failure Unit → Nat
  | .ok () => ExitStatus.ok.code
  | .error failure => failure.exitStatus.code

/-- A release accounts for the failures of its jobs. That secrets are missing is no such failure. -/
theorem Release.run_accounts (services : Services ε) (project : Project) (version : String)
    : (run services project version).Accounts (exitCode · = 3) := by
  have stages : ∀ unit ∈ (Release.stages services.config project version).1.map services.stage,
      Group.AccountsInSequence unit := by
    intro unit member
    obtain ⟨stage, _, rfl⟩ := List.mem_map.mp member
    cases stage with
    | job spec => exact spec.unit_accountsInSequence services.executor
    | idle name => exact .of_accounts (UnitOfWork.idle_accounts name)
  have validated : ∀ failure, validate services.config project = .error failure →
      exitCode (.error failure) ≠ 3 := by
    intro failure refused
    unfold validate at refused
    split at refused <;> cases refused
    exact (by decide : (2 : Nat) ≠ 3)
  unfold run
  cases valid : validate services.config project with
  | error failure => exact .pure (validated failure valid)
  | ok =>
      refine .write_bind _ (.write_bind _ (.bind (Group.runFrom_accounts _ 0 stages) ?_ ?_))
      · intro value failed state other through
        rcases value with failure | ⟨⟩
        · cases through
          rfl
        · exact absurd rfl failed
      · intro value passed
        rcases value with failure | ⟨⟩
        · exact absurd nofun passed
        · exact .write_bind _ (.pure (by decide))

namespace Suite

/-- Checks of jobs other than the images account for the failures of these and of their reports. -/
theorem runChecks_accounts (services : Services ε) {specs : List JobSpec}
    (others : ∀ spec ∈ specs, spec.name ≠ Catalog.imagesName) (event : Event)
    (project : Project)
    : (runChecks services (specs.map (Factory.ofJob services)) event project).Accounts
        (· ≠ .ok ()) := by
  intro before state result through
  cases shown : services.detailsUrl event.buildId with
  | error refusal =>
      rw [runChecks_refused services _ event project state shown] at through
      cases through
  | ok detailsUrl =>
      have each : ∀ unit ∈ specs.map fun spec =>
          (check services event project detailsUrl spec).unit services.reporter,
          unit.Accounts := by
        intro unit member
        obtain ⟨spec, known, rfl⟩ := List.mem_map.mp member
        exact Check.unit_accounts services.reporter rfl (others spec known)
      rw [runChecks_trace services specs event project state shown] at through ⊢
      rw [Trace.behind_acts, showsFailure_append,
        Group.runAll_accounts services.schedule each _ _ result through]
      simp [not_showsFailure_built]

/-- A suite accounts for the failures of its checks. -/
theorem run_accounts (services : Services ε) (event : Event) (project : Project)
    : (run services event project).Accounts (· ≠ .ok ()) := by
  have checks : (runChecks services (factories services) event project).Accounts (· ≠ .ok ()) :=
    runChecks_accounts services
      (fun spec member => (suite_ne_images services.config spec member).symm) event project
  refine .write_bind _ (.bind checks ?_ ?_)
  · intro value failed state other through
    rcases value with failure | ⟨⟩
    · cases through
      nofun
    · exact absurd rfl failed
  · intro value passed
    rcases value with failure | ⟨⟩
    · exact absurd nofun passed
    · dsimp only
      split
      · exact .bind (publishEdge_accounts services project) (fun _ => False.elim)
          fun _ _ => .pure fun differs => differs rfl
      · exact .pure fun differs => differs rfl

end Suite

end Conductor
