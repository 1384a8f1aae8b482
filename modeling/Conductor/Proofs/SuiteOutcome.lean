import Conductor.Proofs.DispatchComposition
import Conductor.Proofs.GroupOutcome
import Conductor.Proofs.Sequence

/-! What a suite that passes has done. Each of its checks was started once, its job ended once and
passed, and its report was delivered once.
-/

namespace Conductor

variable {ε : Type}

/-- The starts and ends of jobs and the deliveries of reports that acts show. -/
structure Shows (acts : List Act) (starts : List JobSpec) (ends : List (JobSpec × Outcome))
    (deliveries : List (StatusReport × Option Breakdown))
    : Prop where
  starts : acts.filterMap Act.start? = starts
  ends : acts.filterMap Act.end? = ends
  deliveries : acts.filterMap Act.delivery? = deliveries

theorem Shows.deeds (deeds : List Deed) : Shows (deeds.map .did) [] [] [] where
  starts := Act.filterMap_did (fun _ => rfl) deeds
  ends := Act.filterMap_did (fun _ => rfl) deeds
  deliveries := Act.filterMap_did (fun _ => rfl) deeds

theorem Shows.append {first second : List Act} {starts₁ starts₂ : List JobSpec}
    {ends₁ ends₂ : List (JobSpec × Outcome)}
    {deliveries₁ deliveries₂ : List (StatusReport × Option Breakdown)}
    (before : Shows first starts₁ ends₁ deliveries₁)
    (after : Shows second starts₂ ends₂ deliveries₂)
    : Shows (first ++ second) (starts₁ ++ starts₂) (ends₁ ++ ends₂)
        (deliveries₁ ++ deliveries₂) where
  starts := by rw [List.filterMap_append, before.starts, after.starts]
  ends := by rw [List.filterMap_append, before.ends, after.ends]
  deliveries := by rw [List.filterMap_append, before.deliveries, after.deliveries]

theorem Shows.cons {act : Act} {acts : List Act} {starts₁ starts₂ : List JobSpec}
    {ends₁ ends₂ : List (JobSpec × Outcome)}
    {deliveries₁ deliveries₂ : List (StatusReport × Option Breakdown)}
    (first : Shows [act] starts₁ ends₁ deliveries₁) (rest : Shows acts starts₂ ends₂ deliveries₂)
    : Shows (act :: acts) (starts₁ ++ starts₂) (ends₁ ++ ends₂) (deliveries₁ ++ deliveries₂) :=
  .append first rest

/-- A job shows its start and its end. -/
theorem Shows.job (spec : JobSpec) (deeds : List Deed) (outcome : Outcome)
    : Shows (.started spec :: (deeds.map .did ++ [.ended spec outcome])) [spec] [(spec, outcome)]
        [] :=
  .cons ⟨rfl, rfl, rfl⟩ (.append (.deeds deeds) ⟨rfl, rfl, rfl⟩)

/-- A job shows its start in its first turn, and starts nothing else. -/
theorem JobSpec.unit_shows_start (executor : Executor ε) (spec : JobSpec)
    : (spec.unit executor).Shows Act.start? [spec] where
  course := by
    intro acts outcome goes
    obtain ⟨deeds, _, rfl⟩ := JobSpec.unit_goes goes
    exact (Shows.job spec deeds outcome).starts
  turn state := by
    obtain ⟨more, first⟩ := JobSpec.unit_turn executor spec state
    rw [first]
    exact ⟨_, rfl⟩

-----------------------------------------------------------------------------------------
-- Checks
-----------------------------------------------------------------------------------------

namespace Check

/-- A conclusion that passes is that of a job that passed, and shows the delivery of its report.
Witness: by cases on whether the job was cancelled and whether the delivery broke off.
-/
theorem conclude_passed {reporter : Reporter ε} {check : Check ε} {outcome : Outcome}
    {acts : List Act} (passed : (check.conclude reporter outcome).Goes acts .passed)
    : outcome = .passed ∧ Shows acts [] [] [(check.report none, none)] := by
  cases cancelled : outcome.cancellation? with
  | some text =>
      obtain ⟨_, rfl⟩ := conclude_cancelled cancelled passed
      cases cancelled
  | none =>
      obtain ⟨deeds, answer, _, rfl, last⟩ := conclude_reported cancelled passed
      obtain ⟨rfl, through⟩ := (result_eq_passed_iff cancelled _).mp last.symm
      rw [through]
      exact ⟨rfl, .cons ⟨rfl, rfl, rfl⟩ (.append (.deeds deeds) ⟨rfl, rfl, rfl⟩)⟩

/-- A check that passes shows that its job started and passed, and that its report was delivered. -/
theorem unit_passed {reporter : Reporter ε} {executor : Executor ε} {check : Check ε}
    {spec : JobSpec} (job : check.job = spec.unit executor) {acts : List Act}
    (passed : (check.unit reporter).work.Goes acts .passed)
    : Shows acts [spec] [(spec, .passed)] [(check.report none, none)] := by
  obtain ⟨own, mid, after, running, concluding, rfl⟩ := unit_goes passed
  obtain ⟨rfl, concluded⟩ := conclude_passed concluding
  rw [job] at running
  obtain ⟨deeds, _, rfl⟩ := JobSpec.unit_goes running
  exact (Shows.job spec deeds .passed).append concluded

/-- A conclusion starts no job. -/
theorem conclude_starts {reporter : Reporter ε} {check : Check ε} {outcome last : Outcome}
    {acts : List Act} (goes : (check.conclude reporter outcome).Goes acts last)
    : acts.filterMap Act.start? = [] := by
  have every : ∀ outcome, (check.conclude reporter outcome).Every (Act.start? · = none) :=
    conclude_every (fun _ => rfl) (fun _ => rfl) fun _ _ _ _ => rfl
  exact List.filterMap_eq_nil_iff.mpr (every outcome acts last goes).1

/-- A check starts its job in its first turn, and starts nothing else. -/
theorem unit_shows_start (reporter : Reporter ε) {executor : Executor ε} {check : Check ε}
    {spec : JobSpec} (job : check.job = spec.unit executor)
    : (check.unit reporter).Shows Act.start? [spec] where
  course := by
    intro acts outcome goes
    obtain ⟨own, mid, after, running, concluding, rfl⟩ := unit_goes goes
    rw [job] at running
    obtain ⟨deeds, _, rfl⟩ := JobSpec.unit_goes running
    rw [List.filterMap_append, conclude_starts concluding, List.append_nil]
    exact (Shows.job spec deeds mid).starts
  turn := by
    intro state
    obtain ⟨more, first⟩ := JobSpec.unit_turn executor spec state
    rw [unit, job, Async.turn_bind, Run.trace_bind, Trace.behind_acts, first]
    exact ⟨_, rfl⟩

end Check

-----------------------------------------------------------------------------------------
-- Groups of checks
-----------------------------------------------------------------------------------------

/-- When a group of checks passes, its jobs start in order, all of them end and pass, and all of
their reports are delivered.
Witness: the history of the group, in which each stretch shows the check at its place.
-/
theorem Group.runAll_checks_passed (schedule : Schedule) (reporter : Reporter ε)
    (executor : Executor ε) (check : JobSpec → Check ε)
    (job : ∀ spec, (check spec).job = spec.unit executor) {specs : List JobSpec}
    (nonempty : specs ≠ []) (state : ε)
    (passed
      : ((runAll schedule (specs.map fun spec => (check spec).unit reporter)).trace state).value
        = .ok (.ok ()))
    : let acts :=
        ((runAll schedule (specs.map fun spec => (check spec).unit reporter)).trace state).acts
      acts.filterMap Act.start? = specs
      ∧ (acts.filterMap Act.end?).Perm (specs.map fun spec => (spec, .passed))
      ∧ (acts.filterMap Act.delivery?).Perm
          (specs.map fun spec => ((check spec).report none, none)) := by
  have starts := runAll_view (fun _ => rfl)
    (fun spec => Check.unit_shows_start reporter (job spec)) schedule specs state
  rw [List.flatMap_singleton'] at starts
  refine ⟨starts, ?_⟩
  obtain ⟨stretches, outcomes, completion, settled⟩ :=
    runAll_through schedule (by simpa using nonempty) state passed
  have shown : ∀ spec, ∀ outcome ∈ outcomes, ∀ acts,
      ((check spec).unit reporter).work.Goes acts outcome
      → Shows acts [spec] [(spec, .passed)] [((check spec).report none, none)] := by
    intro spec outcome member acts goes
    obtain rfl := (completion.passed_iff settled).mp passed outcome member
    exact Check.unit_passed (job spec) goes
  have ends := completion.view_perm_map Act.end? (fun _ => rfl) (fun spec => (spec, .passed))
    fun spec outcome member acts goes => (shown spec outcome member acts goes).ends
  have deliveries := completion.view_perm_map Act.delivery? (fun _ => rfl)
    (fun spec => ((check spec).report none, none))
    fun spec outcome member acts goes => (shown spec outcome member acts goes).deliveries
  exact ⟨ends, deliveries⟩

-----------------------------------------------------------------------------------------
-- The suite
-----------------------------------------------------------------------------------------

namespace Factory

/-- A factory builds its unit or breaks down, and does nothing else. -/
theorem run_trace (factory : Factory ε) (state : ε)
    : factory.run.trace state
      = ⟨(factory.build state).1.mapError Fault.broken, (factory.build state).2,
          [.built factory.key]⟩ := by
  rw [run, Attempt.trace_bind_ok (Attempt.trace_ofRun _ state),
    Attempt.trace_bind_ok (Attempt.trace_ofRun _ _)]
  simp only [Run.trace_act, Run.trace_change]
  cases (factory.build state).1 <;> rfl

/-- Factories that come through have built their units in order and done nothing else, by induction
on the factories.
-/
theorem mapM_run_acts (factories : List (Factory ε)) (state : ε) {units : List (UnitOfWork ε)}
    (building : (Attempt.trace (factories.mapM run) state).value = .ok units)
    : (Attempt.trace (factories.mapM run) state).acts
      = factories.map fun factory => .built factory.key := by
  induction factories generalizing state units with
  | nil => rfl
  | cons factory rest ih =>
      have built := factory.run_trace state
      rw [List.mapM_cons] at building ⊢
      rcases made : (factory.build state).1 with breakdown | unit
      · rw [made] at built
        rw [Attempt.trace_bind_error built] at building
        cases building
      rw [made] at built
      rw [Attempt.trace_bind_ok built] at building ⊢
      rcases others : Attempt.trace (rest.mapM run) (factory.build state).2 with
        ⟨fault | units, later, acts⟩
      · rw [Attempt.trace_bind_error others] at building
        cases building
      · have listed := ih (factory.build state).2 (congrArg Trace.value others)
        rw [others] at listed
        rw [Attempt.trace_bind_ok others]
        simp [Trace.behind, listed]

/-- Nothing shows of building in a view that shows no factories. -/
theorem built_view {α : Type} {view : Act → Option α} (blind : ∀ key, view (.built key) = none)
    (factories : List (Factory ε))
    : (factories.map fun factory => Act.built factory.key).filterMap view = [] := by
  rw [List.filterMap_map]
  exact List.filterMap_eq_nil_iff.mpr fun factory _ => blind factory.key

end Factory

/-- Building jobs starts none of them. -/
theorem Factory.built_starts (specs : List JobSpec)
    : (specs.map fun spec => Act.built spec.name).filterMap Act.start? = [] := by
  rw [List.filterMap_map]
  exact List.filterMap_eq_nil_iff.mpr fun _ _ => rfl

/-- Jobs of other names, their checks, and what stands between these spare a name. -/
theorem Services.spares (services : Services ε) (name : String)
    : services.AreOf (.every (Act.Spares name)) fun spec => spec.name ≠ name where
  closed := Run.Kind.every_closed _
  writing := Run.Kind.every_write fun _ => Act.spares_did name _
  building _ := Run.Kind.every_act nofun
  jobs _ other := (JobSpec.unit_spares services.executor other).isOf
  checks _ _ other job := (Check.unit_spares services.reporter services.executor job other).isOf

namespace Suite

/-- The check of a unit for an event. -/
def checkOf (event : Event) (project : Project) (detailsUrl : String) (job : UnitOfWork ε)
    : Check ε :=
  { job, repoName := project.repoName, buildId := event.buildId, detailsUrl }

/-- The checks of factories that come through are those of the units that they have built. -/
theorem runChecks_built (services : Services ε) {factories : List (Factory ε)} {event : Event}
    (project : Project) {state : ε} {detailsUrl : String}
    (shown : services.detailsUrl event.buildId = .ok detailsUrl)
    {jobs : List (UnitOfWork ε)}
    (building : (Attempt.trace (factories.mapM Factory.run) state).value = .ok jobs)
    : (runChecks services factories event project).trace state
      = ((Group.runAll services.schedule (jobs.map fun job =>
            (checkOf event project detailsUrl job).unit services.reporter)).trace
          (Attempt.trace (factories.mapM Factory.run) state).state).behind
          (factories.map fun factory => .built factory.key) := by
  have acts := Factory.mapM_run_acts factories state building
  have built : Attempt.trace (factories.mapM Factory.run) state
      = ⟨.ok jobs, (Attempt.trace (factories.mapM Factory.run) state).state,
          factories.map fun factory => .built factory.key⟩ := by
    rw [← building, ← acts]
  simp only [runChecks, shown]
  rw [Attempt.trace_bind_ok built, List.map_map]
  rfl

/-- The check of a job for an event. -/
def check (services : Services ε) (event : Event) (project : Project) (detailsUrl : String)
    (spec : JobSpec) : Check ε :=
  { job := services.unit spec, repoName := project.repoName, buildId := event.buildId, detailsUrl }

/-- The checks of jobs are built in order, and then run together. -/
theorem runChecks_trace (services : Services ε) (specs : List JobSpec) (event : Event)
    (project : Project) (state : ε) {detailsUrl : String}
    (shown : services.detailsUrl event.buildId = .ok detailsUrl)
    : (runChecks services (specs.map (Factory.ofJob services)) event project).trace state
      = ((Group.runAll services.schedule (specs.map fun spec =>
            (check services event project detailsUrl spec).unit services.reporter)).trace
          state).behind (specs.map fun spec => .built spec.name) := by
  have built := Factory.mapM_ofJob_run services specs state
  rw [runChecks_built services project shown (congrArg Trace.value built), built, List.map_map,
    List.map_map]
  rfl

theorem runChecks_refused (services : Services ε) (factories : List (Factory ε)) (event : Event)
    (project : Project) (state : ε) {refusal : Template.Refusal}
    (shown : services.detailsUrl event.buildId = .error refusal)
    : (runChecks services factories event project).trace state
      = ⟨.error (.template refusal), state, []⟩ := by
  simp only [runChecks, shown, Attempt.trace_throw]

/-- What comes behind checks that pass: on the mainline, images are published. -/
def edge (services : Services ε) (event : Event) (project : Project) : Attempt ε Unit :=
  if isMainline services.config event then publishEdge services project else return ()

/-- What a suite comes to behind its checks: whatever these come to if they do not pass, and else
what publishing images comes to.
-/
def behindChecks (services : Services ε) (event : Event) (project : Project)
    : Trace Act ε (Except Fault (Except Aggregate Unit))
      → Trace Act ε (Except Fault (Except Aggregate Unit))
  | ⟨.ok (.ok ()), state, acts⟩ =>
    let published := (edge services event project).trace state
    ⟨published.value.map .ok, published.state, acts ++ published.acts⟩
  | checks => checks

/-- A suite is its heading, its checks, and what comes behind them. -/
theorem run_trace (services : Services ε) (event : Event) (project : Project) (state : ε)
    : ∃ heading : Message,
        (run services event project).trace state
        = (behindChecks services event project
            ((runChecks services (factories services) event project).trace state)).behind
            [.did (.wrote heading)] := by
  refine ⟨_, (Attempt.trace_write_bind _ _ _).trans (congrArg (Trace.behind _) ?_)⟩
  rcases ended : (runChecks services (factories services) event project).trace state with
    ⟨fault | failure | ⟨⟩, later, acts⟩
  · exact Attempt.trace_bind_error ended
  · rw [Attempt.trace_bind_ok ended]
    simp [behindChecks, Trace.behind]
  · rw [Attempt.trace_bind_ok ended]
    unfold behindChecks edge
    dsimp only
    split
    · rcases published : (publishEdge services project).trace later with ⟨fault | ⟨⟩, last, more⟩
      · rw [Attempt.trace_bind_error published]
        rfl
      · rw [Attempt.trace_bind_ok published]
        simp [Trace.behind, Except.map]
    · rfl

end Suite

-----------------------------------------------------------------------------------------
-- A suite that passes
-----------------------------------------------------------------------------------------

/-- In the acts a job was started once; it ended once, and passed; and one report on it was
delivered, that of its success.
-/
structure PassedOnce (job : JobSpec) (acts : List Act) : Prop where
  started : (acts.filterMap Act.start?).filter (fun spec => spec.name == job.name) = [job]
  ended
    : (acts.filterMap Act.end?).filter (fun entry => entry.1.name == job.name)
      = [(job, .passed)]
  delivered
    : ∃ report,
        (acts.filterMap Act.delivery?).filter (fun entry => entry.1.check == job.name)
          = [(report, none)]
        ∧ report.status = .success

/-- Acts that spare a name show nothing of it. -/
theorem spares_filter {α : Type} {acts : List Act} {name : String}
    (spares : ∀ act ∈ acts, act.Spares name) (view : Act → Option α) (key : α → String)
    (keyed : ∀ act item, view act = some item → act.about? = some (key item))
    : (acts.filterMap view).filter (fun item => key item == name) = [] := by
  refine List.filter_eq_nil_iff.mpr fun item member same => ?_
  obtain ⟨act, known, shown⟩ := List.mem_filterMap.mp member
  have about := keyed act item shown
  rw [eq_of_beq same] at about
  exact spares act known about

/-- Surroundings that spare a name show nothing of it. -/
theorem spares_filter_around {α : Type} {before after : List Act} {name : String}
    (sparesBefore : ∀ act ∈ before, act.Spares name) (sparesAfter : ∀ act ∈ after, act.Spares name)
    (acts : List Act) (view : Act → Option α) (key : α → String)
    (keyed : ∀ act item, view act = some item → act.about? = some (key item))
    : ((before ++ acts ++ after).filterMap view).filter (fun item => key item == name)
      = (acts.filterMap view).filter fun item => key item == name := by
  simp only [List.filterMap_append, List.filter_append,
    spares_filter sparesBefore view key keyed, spares_filter sparesAfter view key keyed,
    List.nil_append, List.append_nil]

namespace Act

theorem about?_of_start? (act : Act) (spec : JobSpec) (shown : act.start? = some spec)
    : act.about? = some spec.name := by
  cases act <;> cases shown
  rfl

theorem about?_of_end? (act : Act) (entry : JobSpec × Outcome) (shown : act.end? = some entry)
    : act.about? = some entry.1.name := by
  cases act <;> cases shown
  rfl

theorem about?_of_delivery? (act : Act) (entry : StatusReport × Option Breakdown)
    (shown : act.delivery? = some entry)
    : act.about? = some entry.1.check := by
  cases act <;> cases shown
  rfl

end Act

/-- What surrounds acts may be anything that spares the name of the job. -/
theorem PassedOnce.surround {job : JobSpec} {before acts after : List Act}
    (passed : PassedOnce job acts) (sparesBefore : ∀ act ∈ before, act.Spares job.name)
    (sparesAfter : ∀ act ∈ after, act.Spares job.name)
    : PassedOnce job (before ++ acts ++ after) := by
  have around {α : Type} (view : Act → Option α) (key : α → String) :=
    spares_filter_around sparesBefore sparesAfter acts view key
  exact {
    started := (around Act.start? JobSpec.name Act.about?_of_start?).trans passed.started
    ended := (around Act.end? (fun entry => entry.1.name) Act.about?_of_end?).trans passed.ended
    delivered := by
      obtain ⟨report, shown, success⟩ := passed.delivered
      have same := around Act.delivery? (fun entry => entry.1.check) Act.about?_of_delivery?
      exact ⟨report, same.trans shown, success⟩
  }

/-- Of items with different keys, one has the key of each.
Witness: the item splits the list, and its key is on neither side.
-/
theorem filter_keyed {α : Type} {items : List α} (key : α → String)
    (different : (items.map key).Nodup) {item : α} (member : item ∈ items)
    : items.filter (fun other => key other == key item) = [item] := by
  obtain ⟨before, after, rfl⟩ := List.append_of_mem member
  -- keys of other items are different, so that nothing on either side is kept
  rw [List.map_append, List.map_cons] at different
  have absent := (List.nodup_middle.mp different).notMem
  have others : ∀ side ⊆ before ++ after,
      side.filter (fun other => key other == key item) = [] := by
    intro side within
    refine List.filter_eq_nil_iff.mpr fun other known same => absent ?_
    rw [← eq_of_beq same, ← List.map_append]
    exact List.mem_map_of_mem (within known)
  rw [List.filter_append, List.filter_cons_of_pos (by simp),
    others before (List.subset_append_left _ _), others after (List.subset_append_right _ _),
    List.nil_append]

/-- Of jobs with different names, one has the name of each. -/
theorem filter_named {α : Type} {specs : List JobSpec} (different : (specs.map JobSpec.name).Nodup)
    {job : JobSpec} (member : job ∈ specs) (shown : JobSpec → α) (key : α → String)
    (keyed : ∀ spec, key (shown spec) = spec.name)
    : (specs.map shown).filter (fun item => key item == job.name) = [shown job] := by
  rw [← keyed job]
  refine filter_keyed key ?_ (List.mem_map_of_mem member)
  rw [List.map_map]
  exact (List.map_congr_left fun spec _ => keyed spec) ▸ different

namespace Suite

/-- When the checks of jobs with different names pass, each job passed once. -/
theorem runChecks_passed (services : Services ε) (specs : List JobSpec) (nonempty : specs ≠ [])
    (different : (specs.map JobSpec.name).Nodup) (event : Event) (project : Project) (state : ε)
    (passed
      : ((runChecks services (specs.map (Factory.ofJob services)) event project).trace state).value
        = .ok (.ok ()))
    : ∀ job ∈ specs,
        PassedOnce job
          ((runChecks services (specs.map (Factory.ofJob services)) event project).trace
            state).acts := by
  intro job member
  cases shown : services.detailsUrl event.buildId with
  | error refusal =>
      rw [runChecks_refused services _ event project state shown] at passed
      cases passed
  | ok detailsUrl =>
      rw [runChecks_trace services specs event project state shown] at passed ⊢
      obtain ⟨starts, ends, deliveries⟩ :=
        Group.runAll_checks_passed services.schedule services.reporter services.executor
          (check services event project detailsUrl) (fun _ => rfl) nonempty state passed
      have checked : PassedOnce job _ := {
        started := by
          rw [starts]
          simpa using filter_named different member id JobSpec.name fun _ => rfl
        ended := by
          have named := filter_named different member (fun spec => (spec, Outcome.passed))
            (fun entry => entry.1.name) fun _ => rfl
          exact List.perm_singleton.mp (named ▸ ends.filter _)
        delivered := by
          have named := filter_named different member
            (fun spec =>
              ((check services event project detailsUrl spec).report none,
                (none : Option Breakdown)))
            (fun entry => entry.1.check) fun _ => rfl
          exact ⟨_, List.perm_singleton.mp (named ▸ deliveries.filter _), rfl⟩
      }
      have built : ∀ act ∈ specs.map (fun spec => Act.built spec.name), act.Spares job.name := by
        intro act actMember
        obtain ⟨spec, _, rfl⟩ := List.mem_map.mp actMember
        exact nofun
      simpa using checked.surround built (List.forall_mem_nil _)

/-- The jobs of the suite have different names, by comparison. -/
theorem suite_different (config : Config)
    : ((Catalog.suite config).map JobSpec.name).Nodup := by
  change ["test-go", "test-javascript", "test-e2e"].Nodup
  decide

/-- The images are not published under the name of a job of the suite, by comparison. -/
theorem suite_ne_images (config : Config)
    : ∀ job ∈ Catalog.suite config, Catalog.imagesName ≠ job.name :=
  Catalog.forall_suite config (by decide)

/-- When the suite passes, each of its jobs passed once, whether or not images of the mainline are
published behind them.
-/
theorem run_passed (services : Services ε) (event : Event) (project : Project) (state : ε)
    (passed : ((run services event project).trace state).value = .ok (.ok ()))
    : ∀ job ∈ Catalog.suite services.config,
        PassedOnce job ((run services event project).trace state).acts := by
  intro job member
  have other := suite_ne_images services.config job member
  have listed : (Catalog.suite services.config).map (Factory.ofJob services) = factories services :=
    rfl
  have checked := runChecks_passed services (Catalog.suite services.config)
    (List.cons_ne_nil _ _)
    (suite_different services.config) event project state
  obtain ⟨heading, whole⟩ := run_trace services event project state
  rw [whole, Trace.behind_value] at passed
  rw [whole, Trace.behind_acts]
  rcases ended : (runChecks services (factories services) event project).trace state with
    ⟨fault | failure | ⟨⟩, later, acts⟩
  all_goals rw [ended] at passed
  · cases passed
  · cases passed
  · rw [listed, ended] at checked
    unfold behindChecks edge
    rw [← List.append_assoc]
    refine (checked rfl job member).surround ?heading ?published
    case heading => exact fun act known => List.mem_singleton.mp known ▸ Act.spares_did job.name _
    case published =>
      split
      · exact publishEdge_isOf (services.spares job.name) other later
      · exact fun act known => absurd known List.not_mem_nil

end Suite

end Conductor
