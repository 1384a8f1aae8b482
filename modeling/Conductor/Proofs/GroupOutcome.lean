import Conductor.Proofs.Composition
import Conductor.Proofs.Lookup

/-! What a group that runs together comes to. Each unit runs once and to its end; the result and
the closing messages depend on the outcomes in the order of submission, and on nothing else.
-/

namespace Conductor

variable {ε : Type}

-----------------------------------------------------------------------------------------
-- Outcomes in the order of submission
-----------------------------------------------------------------------------------------

/-- The failures that the outcomes of named units amount to, in their order. A failure stands for
itself; an error is a failure of the unit that raised it, with the error in words for its reason.
-/
def failuresInOrder : List (String × Outcome) → List UnitFailure
  | [] => []
  | (_, .passed) :: rest => failuresInOrder rest
  | (_, .failed failure) :: rest => failure :: failuresInOrder rest
  | (name, .broken (.trouble trouble)) :: rest =>
    { job := name, reason := trouble.kind ++ ": " ++ trouble.text } :: failuresInOrder rest
  | (_, .broken (.cancelled _)) :: rest => failuresInOrder rest

/-- An outcome adds the failure that it counts as, by cases on the outcome. -/
theorem failuresInOrder_cons (name : String) (outcome : Outcome) (rest : List (String × Outcome))
    : failuresInOrder ((name, outcome) :: rest)
      = (outcome.failure? name).toList ++ failuresInOrder rest := by
  rcases outcome with _ | failure | ⟨trouble | text⟩ <;> rfl

/-- The failures of outcomes are those that the outcomes count as, by induction on the outcomes. -/
theorem failuresInOrder_eq_filterMap (ended : List (String × Outcome))
    : failuresInOrder ended = ended.filterMap fun entry => entry.2.failure? entry.1 := by
  induction ended with
  | nil => rfl
  | cons entry rest ih =>
      rw [failuresInOrder_cons, ih, List.filterMap_cons]
      cases entry.2.failure? entry.1 <;> rfl

/-- Items that came in any order have an order of places. No place is left to the spare item.
Witness: look every place up; each place has exactly one item.
-/
theorem exists_inOrder {α : Type} (spare : α) {placed : List (Nat × α)} {count : Nat}
    (all : (placed.map Prod.fst).Perm (List.range count))
    : ∃ items : List α,
        items.length = count
        ∧ (∀ place, placed.lookup place = items[place]?)
        ∧ ∀ place item, items[place]? = some item ↔ (place, item) ∈ placed := by
  have unique : (placed.map Prod.fst).Nodup := all.nodup_iff.mpr List.nodup_range
  let items := (List.range count).map fun place => (placed.lookup place).getD spare
  have found : ∀ place, placed.lookup place = items[place]? := by
    intro place
    by_cases within : place < count
    · have member := all.mem_iff.mpr (List.mem_range.mpr within)
      obtain ⟨⟨_, item⟩, known, rfl⟩ := List.mem_map.mp member
      have same := (lookup_eq_some_iff_mem unique _ item).mpr known
      simp [items, within, same]
    · have beyond : placed.lookup place = none :=
        lookup_eq_none_iff_notMem.mpr fun known =>
          within (List.mem_range.mp (all.mem_iff.mp known))
      simp [items, within, beyond]
  refine ⟨items, by simp [items], found, ?_⟩
  intro place item
  rw [← found, lookup_eq_some_iff_mem unique]

/-- The failures of a group are those of its outcomes in the order of submission.
Witness: induction on the units, whose places count up with the outcomes.
-/
theorem zipIdx_failures (units : List (UnitOfWork ε)) (ended : List (Nat × Outcome))
    (outcomes : List Outcome) (place : Nat) (length : outcomes.length = units.length)
    (found : ∀ index, ended.lookup (place + index) = outcomes[index]?)
    : (units.zipIdx place).filterMap
          (fun entry => (ended.lookup entry.2).bind (Outcome.failure? entry.1.name))
      = failuresInOrder ((units.map UnitOfWork.name).zip outcomes) := by
  induction units generalizing outcomes place with
  | nil => rfl
  | cons unit rest ih =>
      cases outcomes with
      | nil => simp at length
      | cons outcome outcomes =>
          have first : ended.lookup place = some outcome := by simpa using found 0
          have others := ih outcomes (place + 1) (by simpa using length)
            (fun index => by simpa [Nat.add_assoc, Nat.add_comm 1] using found (index + 1))
          rw [List.map_cons, List.zip_cons_cons, failuresInOrder_cons, ← others,
            List.zipIdx_cons, List.filterMap_cons, first, Option.bind_some]
          cases outcome.failure? unit.name <;> rfl

/-- Outcomes without a cancellation leave no failures exactly if all are passes, by induction on
them.
-/
theorem failuresInOrder_eq_nil_iff {names : List String} {outcomes : List Outcome}
    (length : names.length = outcomes.length)
    (settled : ∀ outcome ∈ outcomes, outcome.cancellation? = none)
    : failuresInOrder (names.zip outcomes) = [] ↔ ∀ outcome ∈ outcomes, outcome = .passed := by
  induction names generalizing outcomes with
  | nil =>
      cases outcomes with
      | nil => simp [failuresInOrder]
      | cons outcome rest => cases length
  | cons name names ih =>
      cases outcomes with
      | nil => cases length
      | cons outcome rest =>
          obtain ⟨own, others⟩ := List.forall_mem_cons.mp settled
          rw [List.zip_cons_cons, failuresInOrder_cons, List.append_eq_nil_iff,
            ih (Nat.succ.inj length) others, List.forall_mem_cons]
          refine and_congr_left fun _ => ?_
          rcases outcome with _ | failure | ⟨trouble | text⟩
          · simp [Outcome.failure?]
          · simp [Outcome.failure?]
          · simp [Outcome.failure?]
          · cases own

/-- What is shown of the items at all places is shown of all items, by induction on these. -/
theorem range_flatMap {α β : Type} (items : List α) (shown : α → List β)
    : (List.range items.length).flatMap (fun place => (items[place]?.map shown).getD [])
      = items.flatMap shown := by
  induction items with
  | nil => rfl
  | cons item rest ih =>
      rw [List.length_cons, List.range_succ_eq_map, List.flatMap_cons, List.flatMap_map]
      simpa using ih

-----------------------------------------------------------------------------------------
-- Groups that run together
-----------------------------------------------------------------------------------------

namespace Group

/-- A group goes from its opening through the run of its units to its closing, unless a unit was
cancelled.
-/
theorem runAll_trace (schedule : Schedule) {units : List (UnitOfWork ε)} (nonempty : units ≠ [])
    (state : ε)
    (running : ((runTogether schedule units).trace state).value.cancelled = none)
    : let together := (runTogether schedule units).trace state
      let failed := failures units together.value.outcomes
      (runAll schedule units).trace state
      = ⟨.ok (verdict failed), together.state,
          .did (.wrote (opening units))
            :: (together.acts
              ++ (closing units.length failed).map fun message => .did (.wrote message))⟩ := by
  simp only [runAll, List.isEmpty_iff, nonempty, if_false, Attempt.trace_write_bind,
    Attempt.trace_liftM_bind, running, Attempt.trace_pure, Trace.behind_behind]
  simp [Trace.behind]

/-- A group in which a unit was cancelled is broken off behind what its units did. -/
theorem runAll_broken (schedule : Schedule) {units : List (UnitOfWork ε)} (nonempty : units ≠ [])
    (state : ε) {text : String} {turn : Nat}
    (cancelled : ((runTogether schedule units).trace state).value.cancelled = some (text, turn))
    : let together := (runTogether schedule units).trace state
      (runAll schedule units).trace state
      = ⟨.error (.cancelled text), together.state,
          .did (.wrote (opening units)) :: together.acts⟩ := by
  simp only [runAll, List.isEmpty_iff, nonempty, if_false, Attempt.trace_write_bind,
    Attempt.trace_liftM_bind, cancelled, Attempt.trace_throw, Trace.behind_behind]
  simp [Trace.behind]

/-- A group in which a unit was cancelled is broken off. -/
theorem runAll_cancelled (schedule : Schedule) {units : List (UnitOfWork ε)} (nonempty : units ≠ [])
    (state : ε)
    (cancelled : ((runTogether schedule units).trace state).value.cancelled ≠ none)
    : ∃ fault, ((runAll schedule units).trace state).value = .error fault := by
  obtain ⟨⟨text, turn⟩, noted⟩ := Option.ne_none_iff_exists'.mp cancelled
  rw [runAll_broken schedule nonempty state noted]
  exact ⟨_, rfl⟩

/-- A group shows in order what the first turns of its units do, whatever the schedule picks and
whatever comes of them.
-/
theorem runAll_view {ι α : Type} {unit : ι → UnitOfWork ε} {view : Act → Option α}
    {shown : ι → List α} (blind : ∀ deed, view (.did deed) = none)
    (shows : ∀ item, (unit item).Shows view (shown item)) (schedule : Schedule) (items : List ι)
    (state : ε)
    : ((runAll schedule (items.map unit)).trace state).acts.filterMap view
      = items.flatMap shown := by
  cases items with
  | nil => rfl
  | cons item rest =>
      have together := runTogether_view shows schedule (item :: rest) state
      have nonempty : (item :: rest).map unit ≠ [] := List.cons_ne_nil _ _
      have wrote := fun messages => Act.filterMap_wrote blind messages
      cases cancelled
        : ((runTogether schedule ((item :: rest).map unit)).trace state).value.cancelled with
      | none =>
          have running := runAll_trace schedule nonempty state cancelled
          rw [running, List.filterMap_cons_none (blind _), List.filterMap_append, together, wrote,
            List.append_nil]
      | some found =>
          have broken := runAll_broken schedule nonempty state cancelled
          rw [broken, List.filterMap_cons_none (blind _), together]

theorem places_zipIdx (units : List (UnitOfWork ε))
    : units.zipIdx.map Prod.snd = List.range units.length := by
  rw [List.zipIdx_map_snd, List.range_eq_range']

/-- The failures of a group depend on the names of its units and on the outcomes. -/
theorem failures_eq (units : List (UnitOfWork ε)) (ended : List (Nat × Outcome))
    : failures units ended
      = (units.map UnitOfWork.name).zipIdx.filterMap fun entry =>
          (ended.lookup entry.2).bind (Outcome.failure? entry.1) := by
  rw [failures, List.zipIdx_map, List.filterMap_map]
  rfl

/-- What has come of units that ran together has come of each of them once. -/
theorem runTogether_places (schedule : Schedule) (units : List (UnitOfWork ε)) (state : ε)
    (running : ((runTogether schedule units).trace state).value.cancelled = none)
    : (((runTogether schedule units).trace state).value.outcomes.map Prod.fst).Perm
        (List.range units.length) := by
  obtain ⟨stretches, history, _, ended⟩ := runTogether_recorded schedule units state running
  have ends := history.ends
  rw [List.map_nil, List.append_nil, places_zipIdx] at ends
  rwa [ended, List.nil_append]

/-- A run of a group by stretches of its units, in which each of these has gone one of its courses,
and they have had the given outcomes in the order of submission. The result and the messages of the
group are made of those outcomes alone: neither the schedule nor the order in which units end has a
part in them.
-/
structure Completion (units : List (UnitOfWork ε)) (state : ε) (stretches : List Stretch)
    (outcomes : List Outcome) (trace : Trace Act ε (Except Fault (Except Aggregate Unit)))
    : Prop where
  history : History units.zipIdx [] state stretches trace.state
  startedOnce : stretches.filterMap Stretch.start? = List.range units.length
  endedOnce
    : ((stretches.filterMap Stretch.end?).map Prod.fst).Perm (List.range units.length)
  length : outcomes.length = units.length
  outcome_iff
    : ∀ place outcome,
        outcomes[place]? = some outcome ↔ (place, outcome) ∈ stretches.filterMap Stretch.end?
  value
    : trace.value
      = .ok
          (match failuresInOrder ((units.map UnitOfWork.name).zip outcomes) with
          | [] => .ok ()
          | first :: rest => .error { first, place := some 0, failures := first :: rest })
  course
    : ∀ (place : Nat) (unit : UnitOfWork ε) outcome,
        units[place]? = some unit
        → outcomes[place]? = some outcome
        → unit.work.Goes (Stretch.actsAt place stretches) outcome
  acts
    : let failed := failuresInOrder ((units.map UnitOfWork.name).zip outcomes)
      trace.acts
      = .did (.wrote (opening units))
        :: (stretches.flatMap Stretch.acts
          ++ (failed.map fun failure => .did (.wrote (.warning failure.message)))
          ++ if failed.isEmpty then []
            else
              [.did (.wrote (.error
                (toString failed.length ++ "/" ++ toString units.length ++ " job(s) failed")))])

/-- A group closes with a warning for each failure, and then their number if there are any. -/
theorem closing_acts (count : Nat) (failed : List UnitFailure)
    : ((closing count failed).map fun message => Act.did (.wrote message))
      = (failed.map fun failure => Act.did (.wrote (.warning failure.message)))
        ++ if failed.isEmpty then []
          else
            [.did (.wrote (.error
              (toString failed.length ++ "/" ++ toString count ++ " job(s) failed")))] := by
  rw [closing, List.map_append, List.map_map]
  cases failed <;> rfl

/-- A group in which nothing was cancelled is run to completion, and no unit ends with a
cancellation. Witness: the history of the units, and the outcomes of its stretches looked up by
their places.
-/
theorem runAll_completed (schedule : Schedule) {units : List (UnitOfWork ε)}
    (nonempty : units ≠ []) (state : ε)
    (running : ((runTogether schedule units).trace state).value.cancelled = none)
    : ∃ stretches outcomes,
        Completion units state stretches outcomes ((runAll schedule units).trace state)
        ∧ ∀ outcome ∈ outcomes, outcome.cancellation? = none := by
  have noted := runTogether_noted schedule units state running
  obtain ⟨stretches, history, acts, ended⟩ := runTogether_recorded schedule units state running
  rw [ended, List.nil_append] at noted
  have starts := history.starts
  have ends := history.ends
  rw [List.map_nil, List.append_nil] at ends
  rw [places_zipIdx] at starts ends
  have different : (units.zipIdx.map Prod.snd).Nodup := places_zipIdx units ▸ List.nodup_range
  obtain ⟨outcomes, length, found, known⟩ := exists_inOrder .passed ends
  have failed : failures units (stretches.filterMap Stretch.end?)
      = failuresInOrder ((units.map UnitOfWork.name).zip outcomes) :=
    zipIdx_failures units _ outcomes 0 length (by simpa using found)
  have trace := runAll_trace schedule nonempty state running
  simp only [ended, List.nil_append, acts, failed] at trace
  refine ⟨stretches, outcomes, ?completion, ?settled⟩
  case settled =>
    intro outcome member
    obtain ⟨place, there⟩ := List.mem_iff_getElem?.mp member
    exact noted _ ((known place outcome).mp there)
  rw [trace]
  exact {
    history
    startedOnce := starts
    endedOnce := ends
    length
    outcome_iff := known
    course := by
      intro place unit outcome there came
      have member : (unit, place) ∈ units.zipIdx := List.mem_zipIdx_iff_getElem?.mpr there
      exact history.course different member ((known place outcome).mp came)
    value := by
      cases failuresInOrder ((units.map UnitOfWork.name).zip outcomes) <;> rfl
    acts := by
      rw [closing_acts, ← List.append_assoc]
  }

/-- Every group of units that are never cancelled is run to completion, whatever the schedule picks.
-/
theorem runAll_completion (schedule : Schedule) {units : List (UnitOfWork ε)}
    (nonempty : units ≠ []) (uncancelled : ∀ unit ∈ units, unit.Uncancelled) (state : ε)
    : ∃ stretches outcomes,
        Completion units state stretches outcomes ((runAll schedule units).trace state) := by
  have running := runTogether_running schedule units state uncancelled
  obtain ⟨stretches, outcomes, completion, _⟩ := runAll_completed schedule nonempty state running
  exact ⟨stretches, outcomes, completion⟩

/-- A group that comes through is run to completion, and no unit ends with a cancellation. -/
theorem runAll_through (schedule : Schedule) {units : List (UnitOfWork ε)} (nonempty : units ≠ [])
    (state : ε) {result : Except Aggregate Unit}
    (through : ((runAll schedule units).trace state).value = .ok result)
    : ∃ stretches outcomes,
        Completion units state stretches outcomes ((runAll schedule units).trace state)
        ∧ ∀ outcome ∈ outcomes, outcome.cancellation? = none := by
  refine runAll_completed schedule nonempty state ?_
  by_contra cancelled
  obtain ⟨fault, broken⟩ := runAll_cancelled schedule nonempty state cancelled
  rw [broken] at through
  cases through

namespace Completion

variable {units : List (UnitOfWork ε)} {state : ε} {stretches : List Stretch}
  {outcomes : List Outcome} {trace : Trace Act ε (Except Fault (Except Aggregate Unit))}

/-- A group that is run to completion has failed unless all of its units have passed. -/
theorem passed_iff (completion : Completion units state stretches outcomes trace)
    (settled : ∀ outcome ∈ outcomes, outcome.cancellation? = none)
    : trace.value = .ok (.ok ()) ↔ ∀ outcome ∈ outcomes, outcome = .passed := by
  have length : (units.map UnitOfWork.name).length = outcomes.length := by
    rw [List.length_map, completion.length]
  rw [completion.value, ← failuresInOrder_eq_nil_iff length settled]
  cases failuresInOrder ((units.map UnitOfWork.name).zip outcomes) <;> simp

/-- What is done by stretches is done by the group. -/
theorem acts_subset (completion : Completion units state stretches outcomes trace)
    : stretches.flatMap Stretch.acts ⊆ trace.acts := by
  intro act member
  rw [completion.acts]
  exact List.mem_cons_of_mem _ (List.mem_append_left _ (List.mem_append_left _ member))

/-- What is done by stretches is done on the courses of units. -/
theorem mem_course (completion : Completion units state stretches outcomes trace) {act : Act}
    (member : act ∈ stretches.flatMap Stretch.acts)
    : ∃ unit ∈ units,
        ∃ outcome ∈ outcomes, ∃ acts, unit.work.Goes acts outcome ∧ act ∈ acts := by
  obtain ⟨stretch, known, within⟩ := Stretch.mem_actsAt member
  have place := completion.history.places stretch known
  rw [List.map_nil, List.append_nil, places_zipIdx, List.mem_range] at place
  have ended : stretch.place < outcomes.length := completion.length ▸ place
  have goes := completion.course stretch.place _ _ (List.getElem?_eq_getElem place)
    (List.getElem?_eq_getElem ended)
  exact ⟨_, List.getElem_mem place, _, List.getElem_mem ended, _, goes, within⟩

/-- Each outcome of a completed run has come of a course of a unit. -/
theorem course_of_mem (completion : Completion units state stretches outcomes trace)
    {outcome : Outcome} (member : outcome ∈ outcomes)
    : ∃ unit ∈ units,
        ∃ acts, unit.work.Goes acts outcome ∧ acts ⊆ stretches.flatMap Stretch.acts := by
  obtain ⟨place, came⟩ := List.mem_iff_getElem?.mp member
  obtain ⟨within, _⟩ := List.getElem?_eq_some_iff.mp came
  rw [completion.length] at within
  have goes := completion.course place _ _ (List.getElem?_eq_getElem within) came
  exact ⟨_, List.getElem_mem within, _, goes, Stretch.actsAt_subset place stretches⟩

/-- What units show on their courses is shown by a group that is run to completion, in some order.
-/
theorem view_perm {ι α : Type} {items : List ι} {unit : ι → UnitOfWork ε}
    (completion : Completion (items.map unit) state stretches outcomes trace)
    (view : Act → Option α) (blind : ∀ deed, view (.did deed) = none)
    (shown : ι → Outcome → List α)
    (shows
      : ∀ item outcome,
          (item, outcome) ∈ items.zip outcomes
          → ∀ acts, (unit item).work.Goes acts outcome → acts.filterMap view = shown item outcome)
    : (trace.acts.filterMap view).Perm
        ((items.zip outcomes).flatMap fun entry => shown entry.1 entry.2) := by
  let placed := items.zip outcomes
  have count : (items.map unit).length = placed.length := by
    have length := completion.length
    rw [List.length_map] at length
    rw [List.length_zip, List.length_map, length, Nat.min_self]
  have different : ((items.map unit).zipIdx.map Prod.snd).Nodup :=
    places_zipIdx _ ▸ List.nodup_range
  have all := completion.history.view_perm different view
    (fun place => (placed[place]?.map fun entry => shown entry.1 entry.2).getD []) (by
      rintro ⟨_, place⟩ member acts outcome goes came
      obtain ⟨item, there, rfl⟩ := Option.map_eq_some_iff.mp
        (List.getElem?_map .. ▸ List.mem_zipIdx_iff_getElem?.mp member)
      have ended := (completion.outcome_iff place outcome).mpr came
      have both : placed[place]? = some (item, outcome) :=
        List.getElem?_zip_eq_some.mpr ⟨there, ended⟩
      rw [both]
      exact shows item outcome (List.mem_of_getElem? both) acts goes)
  rw [places_zipIdx, count, range_flatMap] at all
  have closing : ∀ messages : List Message,
      (messages.map fun message => Act.did (.wrote message)).filterMap view = [] :=
    Act.filterMap_wrote blind
  rw [completion.acts, List.filterMap_cons_none (blind _), List.append_assoc, List.filterMap_append,
    ← closing_acts, closing, List.append_nil]
  exact all

/-- What each unit shows once on its course, whatever its outcome, is shown once for each of them.
-/
theorem view_perm_map {ι α : Type} {items : List ι} {unit : ι → UnitOfWork ε}
    (completion : Completion (items.map unit) state stretches outcomes trace)
    (view : Act → Option α) (blind : ∀ deed, view (.did deed) = none) (shown : ι → α)
    (shows
      : ∀ item,
          ∀ outcome ∈ outcomes,
            ∀ acts, (unit item).work.Goes acts outcome → acts.filterMap view = [shown item])
    : (trace.acts.filterMap view).Perm (items.map shown) := by
  have length := completion.length
  rw [List.length_map] at length
  have all := completion.view_perm view blind (fun item _ => [shown item])
    fun item outcome member => shows item outcome (List.of_mem_zip member).2
  rwa [← List.map_eq_flatMap, ← Function.comp_def shown, ← List.map_map,
    List.map_fst_zip (Nat.le_of_eq length.symm)] at all

end Completion

/-- The outcomes of a completed run are those that the courses of its units end with, where these
are known. Witness: each outcome is that of a course of the unit at its place.
-/
theorem Completion.outcomes_eq {units : List (UnitOfWork ε)} {state : ε}
    {stretches : List Stretch} {outcomes expected : List Outcome}
    {trace : Trace Act ε (Except Fault (Except Aggregate Unit))}
    (completion : Completion units state stretches outcomes trace)
    (length : expected.length = units.length)
    (ending
      : ∀ (place : Nat) (unit : UnitOfWork ε) acts outcome,
          units[place]? = some unit
          → unit.work.Goes acts outcome
          → expected[place]? = some outcome)
    : outcomes = expected := by
  apply List.ext_getElem (by rw [completion.length, length])
  intro place within _
  have there := List.getElem?_eq_getElem (completion.length ▸ within : place < units.length)
  have goes := completion.course place _ _ there (List.getElem?_eq_getElem within)
  exact ((List.getElem_eq_iff _).mpr (ending place _ _ _ there goes)).symm

/-- A unit with a behaviour marks its start and its end, and ends as it behaves. -/
theorem ofBehaviour_goes {name : String} {behaviour : Behaviour}
    {acts : List Act} {outcome : Outcome}
    (goes : (UnitOfWork.ofBehaviour name behaviour : UnitOfWork ε).work.Goes acts outcome)
    : acts = [.did (.marked ("start:" ++ name)), .did (.marked ("end:" ++ name))]
      ∧ outcome = behaviour.outcome := by
  obtain ⟨_, _, _, started, waiting, rfl⟩ := goes.of_bind
  obtain ⟨_, _, _, waited, ending, rfl⟩ := waiting.of_bind
  obtain ⟨_, _, _, ended, last, rfl⟩ := ending.of_bind
  rw [started.of_act, waited.of_pauses, ended.of_act, last.of_pure.1]
  exact ⟨rfl, last.of_pure.2⟩

/-- Two units of one name, of which the first fails after a pause and the second raises an error at
once, and a third that passes after two pauses.
-/
def namesakes : List (UnitOfWork Unit) :=
  [.ofBehaviour "lint" ⟨1, .failed ⟨"lint", "style", some 2⟩⟩,
    .ofBehaviour "lint" ⟨0, .broken (.trouble ⟨"OSError", "disk"⟩)⟩,
    .ofBehaviour "test" ⟨2, .passed⟩]

theorem runAll_completion_namesakes
    : namesakes ≠ []
      ∧ (∀ unit ∈ namesakes, unit.Uncancelled)
      ∧ ∃ stretches outcomes,
          Completion namesakes () stretches outcomes
            ((runAll (fun count => count + 1) namesakes).trace ()) := by
  have nonempty : namesakes ≠ [] := by simp [namesakes]
  have uncancelled : ∀ unit ∈ namesakes, unit.Uncancelled := by
    intro unit member acts outcome goes
    simp only [namesakes, List.mem_cons, List.not_mem_nil, or_false] at member
    rcases member with rfl | rfl | rfl <;> exact (ofBehaviour_goes goes).2 ▸ rfl
  exact ⟨nonempty, uncancelled, runAll_completion _ nonempty uncancelled ()⟩

end Group

end Conductor
