import Conductor.Proofs.KeptTurns
import Mathlib.Data.List.Nodup
import Mathlib.Data.List.Perm.Basic

/-! Histories of units that run side by side: which unit was in control, and what it did. Whatever
a schedule picks, the turns of units form a history in which each unit starts once, in order, and
ends once, and in which it goes one of its courses, whatever the others do in between.
-/

namespace Conductor

variable {ε : Type}

-----------------------------------------------------------------------------------------
-- Stretches
-----------------------------------------------------------------------------------------

/-- A stretch of a run in which the unit at a place was in control: what it did, whether it started
then, and the outcome with which it ended, if it did.
-/
structure Stretch where
  place : Nat
  acts : List Act
  begins : Bool
  outcome : Option Outcome
  deriving DecidableEq, Repr

namespace Stretch

/-- The place of the unit that a stretch started. -/
def start? (stretch : Stretch) : Option Nat :=
  if stretch.begins then some stretch.place else none

/-- The place of the unit that a stretch ended, with the outcome. -/
def end? (stretch : Stretch) : Option (Nat × Outcome) :=
  stretch.outcome.map (stretch.place, ·)

/-- The turn of a unit as a stretch. -/
def ofTurn (place : Nat) (begins : Bool) (turn : Trace Act ε (Suspension Act ε Outcome))
    : Stretch :=
  ⟨place, turn.acts, begins, turn.value.value?⟩

/-- What the unit at a place did in some stretches. -/
def actsAt (place : Nat) (stretches : List Stretch) : List Act :=
  (stretches.filter (·.place == place)).flatMap acts

@[simp]
theorem actsAt_nil (place : Nat) : actsAt place [] = [] := rfl

theorem actsAt_cons_self {stretch : Stretch} {place : Nat} (here : stretch.place = place)
    (stretches : List Stretch)
    : actsAt place (stretch :: stretches) = stretch.acts ++ actsAt place stretches := by
  simp [actsAt, here]

theorem actsAt_cons_other {stretch : Stretch} {place : Nat} (elsewhere : stretch.place ≠ place)
    (stretches : List Stretch)
    : actsAt place (stretch :: stretches) = actsAt place stretches := by
  simp [actsAt, elsewhere]

theorem actsAt_of_absent {place : Nat} {stretches : List Stretch}
    (absent : ∀ stretch ∈ stretches, stretch.place ≠ place)
    : actsAt place stretches = [] := by
  rw [actsAt, List.filter_eq_nil_iff.mpr fun stretch member => by simpa using absent stretch member]
  rfl

/-- What the unit at a place did is part of what was done. -/
theorem actsAt_subset (place : Nat) (stretches : List Stretch)
    : actsAt place stretches ⊆ stretches.flatMap acts := by
  intro act member
  obtain ⟨stretch, known, within⟩ := List.mem_flatMap.mp member
  exact List.mem_flatMap.mpr ⟨stretch, List.mem_of_mem_filter known, within⟩

/-- What was done in stretches was done at the places of these. -/
theorem mem_actsAt {act : Act} {stretches : List Stretch} (member : act ∈ stretches.flatMap acts)
    : ∃ stretch ∈ stretches, act ∈ actsAt stretch.place stretches := by
  obtain ⟨stretch, known, within⟩ := List.mem_flatMap.mp member
  have here : stretch ∈ stretches.filter (·.place == stretch.place) :=
    List.mem_filter.mpr ⟨known, by simp⟩
  exact ⟨stretch, known, List.mem_flatMap.mpr ⟨stretch, here, within⟩⟩

/-- What was done in stretches is what was done at their places, in some order.
Witness: induction on the stretches; the acts of the first move to those of its place.
-/
theorem flatMap_acts_perm {places : List Nat} (different : places.Nodup) {stretches : List Stretch}
    (within : ∀ stretch ∈ stretches, stretch.place ∈ places)
    : (stretches.flatMap acts).Perm (places.flatMap fun place => actsAt place stretches) := by
  induction stretches with
  | nil => simp
  | cons stretch rest ih =>
      obtain ⟨here, others⟩ := List.forall_mem_cons.mp within
      obtain ⟨before, after, rfl⟩ := List.append_of_mem here
      have absent := (List.nodup_middle.mp different).notMem
      have same : ∀ side ⊆ before ++ after,
          side.flatMap (fun place => actsAt place (stretch :: rest))
          = side.flatMap fun place => actsAt place rest := by
        intro side inside
        refine List.flatMap_congr fun place member => actsAt_cons_other ?_ rest
        rintro rfl
        exact absent (inside member)
      rw [List.flatMap_cons, List.flatMap_append, List.flatMap_cons, actsAt_cons_self rfl,
        same before (List.subset_append_left _ _), same after (List.subset_append_right _ _)]
      have moved := ih others
      rw [List.flatMap_append, List.flatMap_cons] at moved
      rw [List.append_assoc]
      refine (moved.append_left stretch.acts).trans ?_
      simp only [← List.append_assoc]
      exact (List.perm_append_comm.append_right _).append_right _

end Stretch

/-- What the unit at a place did in some stretches is one of its courses, and it ended there with
the outcome of that course.
-/
def Settles (stretches : List Stretch) (place : Nat) (goes : List Act → Outcome → Prop) : Prop :=
  ∃ outcome,
    goes (Stretch.actsAt place stretches) outcome
    ∧ (place, outcome) ∈ stretches.filterMap Stretch.end?

/-- What a unit did in stretches behind one of another unit is what it did in them all. -/
theorem Settles.behind {stretches : List Stretch} {other : Nat} {goes : List Act → Outcome → Prop}
    (settles : Settles stretches other goes) {stretch : Stretch} (elsewhere : stretch.place ≠ other)
    : Settles (stretch :: stretches) other goes := by
  obtain ⟨outcome, course, ended⟩ := settles
  refine ⟨outcome, ?_, (List.sublist_cons_self _ _).filterMap Stretch.end? |>.subset ended⟩
  rwa [Stretch.actsAt_cons_other elsewhere]

-----------------------------------------------------------------------------------------
-- Histories
-----------------------------------------------------------------------------------------

/-- A unit that has started and not ended: its place, and what is left of it. -/
abbrev UnderWay (ε : Type) := Nat × Suspension Act ε Outcome

/-- The units under way when the unit at a place has taken a turn: it is among them, unless it has
ended.
-/
def goesOn (place : Nat) (others : List (UnderWay ε)) : Suspension Act ε Outcome → List (UnderWay ε)
  | .ended _ => others
  | .paused leg rest => (place, .paused leg rest) :: others

theorem goesOn_perm (place : Nat) {others others' : List (UnderWay ε)} (same : others.Perm others')
    (left : Suspension Act ε Outcome)
    : (goesOn place others left).Perm (goesOn place others' left) := by
  cases left with
  | ended outcome => exact same
  | paused leg rest => exact same.cons _

/-- A unit that has taken a turn has ended, or is under way. -/
theorem goesOn_places (place : Nat) (others : List (UnderWay ε)) (left : Suspension Act ε Outcome)
    : ((left.value?.map fun _ => place).toList ++ (goesOn place others left).map Prod.fst)
      = place :: others.map Prod.fst := by
  cases left <;> rfl

/-- The places of units stay different when one of them takes a turn. -/
theorem goesOn_different {place : Nat} {pending : List Nat} {others : List (UnderWay ε)}
    (different : (place :: (pending ++ others.map Prod.fst)).Nodup)
    (left : Suspension Act ε Outcome)
    : (pending ++ (goesOn place others left).map Prod.fst).Nodup := by
  cases left with
  | ended outcome => exact different.of_cons
  | paused leg rest => exact List.nodup_middle.mpr different

theorem mem_goesOn {place : Nat} {others : List (UnderWay ε)} {entry : UnderWay ε}
    (member : entry ∈ others) (left : Suspension Act ε Outcome)
    : entry ∈ goesOn place others left := by
  cases left with
  | ended outcome => exact member
  | paused leg rest => exact List.mem_cons_of_mem _ member

/-- `History pending underWay state stretches final` says that units, of which the pending ones are
to start in order and others are under way, run from one state to another by stretches, and that
all of them have ended then. Any unit under way may be the next that goes on.
-/
inductive History
    : List (UnitOfWork ε × Nat) → List (UnderWay ε) → ε → List Stretch → ε → Prop where
  | done {state} : History [] [] state [] state
  | start {unit place pending underWay state stretches final}
    (later
      : History pending (goesOn place underWay (unit.work.turn.trace state).value)
          (unit.work.turn.trace state).state stretches final)
    : History ((unit, place) :: pending) underWay state
        (.ofTurn place true (unit.work.turn.trace state) :: stretches) final
  | resume {place leg rest pending underWay others state stretches final}
    (picked : underWay.Perm ((place, .paused leg rest) :: others))
    (later
      : History pending (goesOn place others (rest state)) (leg.trace state).state stretches final)
    : History pending underWay state
        (.ofTurn place false ((Suspension.paused leg rest).resume.trace state) :: stretches) final

namespace History

variable {pending : List (UnitOfWork ε × Nat)} {underWay other : List (UnderWay ε)}
  {state final : ε} {stretches : List Stretch}

/-- The order in which units under way are listed does not matter.
Witness: induction on the history; a turn changes both lists in the same way.
-/
theorem perm (history : History pending underWay state stretches final)
    (same : underWay.Perm other)
    : History pending other state stretches final := by
  induction history generalizing other with
  | done =>
      rw [List.nil_perm.mp same]
      exact .done
  | start _ ih => exact .start (ih (goesOn_perm _ same _))
  | resume picked later _ => exact .resume (same.symm.trans picked) later

/-- Each pending unit starts once, and in order, by induction on the history. -/
theorem starts (history : History pending underWay state stretches final)
    : stretches.filterMap Stretch.start? = pending.map Prod.snd := by
  induction history with
  | done => rfl
  | start _ ih => simp [Stretch.start?, Stretch.ofTurn, ih]
  | resume _ _ ih => simpa [Stretch.start?, Stretch.ofTurn] using ih

/-- The ends of a row of stretches are that of the first, if it ends its unit, and those of the
others.
-/
theorem ends_cons (place : Nat) (begins : Bool) (turn : Trace Act ε (Suspension Act ε Outcome))
    (rest : List Stretch)
    : ((Stretch.ofTurn place begins turn :: rest).filterMap Stretch.end?).map Prod.fst
      = (turn.value.value?.map fun _ => place).toList
        ++ (rest.filterMap Stretch.end?).map Prod.fst := by
  rw [List.filterMap_cons, Stretch.end?, Stretch.ofTurn]
  cases turn.value.value? <;> rfl

/-- Each unit ends once, in any order.
Witness: induction on the history; a start moves a unit from the pending ones to those under way,
and a turn leaves it there or ends it.
-/
theorem ends (history : History pending underWay state stretches final)
    : ((stretches.filterMap Stretch.end?).map Prod.fst).Perm
        (pending.map Prod.snd ++ underWay.map Prod.fst) := by
  induction history with
  | done => exact .refl _
  | @start unit place pending underWay now stretches _ _ ih =>
      rw [ends_cons, List.map_cons, List.cons_append]
      refine (ih.append_left _).trans ?_
      rw [← List.append_assoc]
      refine (List.perm_append_comm.append_right _).trans ?_
      rw [List.append_assoc, goesOn_places]
      exact List.perm_middle
  | @resume place leg rest pending underWay others now stretches _ picked _ ih =>
      rw [ends_cons]
      refine (ih.append_left _).trans ?_
      rw [← List.append_assoc]
      refine (List.perm_append_comm.append_right _).trans ?_
      have moved := (picked.map Prod.fst).symm.append_left (pending.map Prod.snd)
      rw [List.append_assoc]
      exact (goesOn_places place others (rest now)).symm ▸ moved

/-- No unit has a stretch but those pending and those under way, by induction on the history. -/
theorem places (history : History pending underWay state stretches final)
    : ∀ stretch ∈ stretches, stretch.place ∈ pending.map Prod.snd ++ underWay.map Prod.fst := by
  have later : ∀ {place : Nat} {pending : List (UnitOfWork ε × Nat)} {others : List (UnderWay ε)}
      {left : Suspension Act ε Outcome} {other : Nat},
      other ∈ pending.map Prod.snd ++ (goesOn place others left).map Prod.fst
      → other = place ∨ other ∈ pending.map Prod.snd ++ others.map Prod.fst := by
    intro place pending others left other member
    cases left with
    | ended outcome => exact .inr member
    | paused leg rest =>
        simp only [goesOn, List.map_cons, List.mem_append, List.mem_cons] at member ⊢
        tauto
  induction history with
  | done => exact fun stretch member => absurd member List.not_mem_nil
  | @start unit place pending underWay now _ _ _ ih =>
      intro stretch member
      rcases List.mem_cons.mp member with rfl | member
      · exact List.mem_append_left _ List.mem_cons_self
      · rcases later (ih stretch member) with same | known
        · exact List.mem_append_left _ (same ▸ List.mem_cons_self)
        · exact List.mem_cons_of_mem _ known
  | @resume place leg rest pending underWay others now _ _ picked _ ih =>
      have moved := (picked.map Prod.fst).append_left (pending.map Prod.snd)
      intro stretch member
      refine moved.mem_iff.mpr ?_
      rcases List.mem_cons.mp member with rfl | member
      · exact List.mem_append_right _ List.mem_cons_self
      · rcases later (ih stretch member) with same | known
        · exact List.mem_append_right _ (same ▸ List.mem_cons_self)
        · have same : (pending.map Prod.snd ++ place :: others.map Prod.fst).Perm _ :=
            List.perm_middle
          exact same.mem_iff.mpr (List.mem_cons_of_mem _ known)

/-- A unit that has taken a turn, in front of the history of what is left, goes one of its courses
from there, and ends with the outcome of that course.
-/
theorem settles_turn {place : Nat} {begins : Bool} {turn : Trace Act ε (Suspension Act ε Outcome)}
    (later : History pending (goesOn place underWay turn.value) state stretches final)
    (absent : place ∉ pending.map Prod.snd ++ underWay.map Prod.fst)
    (settles
      : ∀ entry ∈ goesOn place underWay turn.value, Settles stretches entry.1 entry.2.Goes)
    : Settles (.ofTurn place begins turn :: stretches) place fun acts outcome =>
        ∃ more, turn.value.Goes more outcome ∧ acts = turn.acts ++ more := by
  have acts : Stretch.actsAt place (.ofTurn place begins turn :: stretches)
      = turn.acts ++ Stretch.actsAt place stretches := Stretch.actsAt_cons_self rfl stretches
  cases left : turn.value with
  | ended outcome =>
      rw [left] at later
      have gone : Stretch.actsAt place stretches = [] :=
        Stretch.actsAt_of_absent fun stretch member same =>
          absent (same ▸ later.places stretch member)
      rw [gone] at acts
      refine ⟨outcome, ⟨[], .ended outcome, acts⟩, ?_⟩
      rw [List.filterMap_cons_some]
      · exact List.mem_cons_self
      · simp [Stretch.end?, Stretch.ofTurn, left, Suspension.value?]
  | paused leg rest =>
      rw [left] at settles
      obtain ⟨outcome, goes, ended⟩ := settles _ List.mem_cons_self
      exact ⟨outcome, ⟨_, goes, acts⟩,
        (List.sublist_cons_self _ _).filterMap Stretch.end? |>.subset ended⟩

/-- Each unit, whether pending or under way, goes one of its courses, and ends with the outcome of
that course. Witness: induction on the history; a turn is the next leg of the unit at its place, and
the courses of the others are none the longer for it.
-/
theorem settles (history : History pending underWay state stretches final)
    (different : (pending.map Prod.snd ++ underWay.map Prod.fst).Nodup)
    : (∀ entry ∈ pending, Settles stretches entry.2 entry.1.work.Goes)
      ∧ ∀ entry ∈ underWay, Settles stretches entry.1 entry.2.Goes := by
  induction history with
  | done => exact ⟨nofun, nofun⟩
  | @start unit place pending underWay now stretches _ later ih =>
      have absent := (List.nodup_cons.mp different).1
      have elsewhere : ∀ other, other ∈ _ → place ≠ other :=
        fun _ known same => absent (same ▸ known)
      obtain ⟨waiting, going⟩ := ih (goesOn_different different _)
      refine ⟨List.forall_mem_cons.mpr ⟨?own, fun entry member => ?pending⟩,
        fun entry member => ?underWay⟩
      case own =>
        exact (settles_turn later absent going).imp fun _ ⟨course, ended⟩ => ⟨⟨now, course⟩, ended⟩
      case pending =>
        exact (waiting entry member).behind
          (elsewhere _ (List.mem_append_left _ (List.mem_map_of_mem member)))
      case underWay =>
        exact (going entry (mem_goesOn member _)).behind
          (elsewhere _ (List.mem_append_right _ (List.mem_map_of_mem member)))
  | @resume place leg rest pending underWay others now stretches _ picked later ih =>
      have moved : (pending.map Prod.snd ++ underWay.map Prod.fst).Perm
          (place :: (pending.map Prod.snd ++ others.map Prod.fst)) :=
        ((picked.map Prod.fst).append_left _).trans List.perm_middle
      have different := moved.nodup_iff.mp different
      have absent := (List.nodup_cons.mp different).1
      have elsewhere : ∀ other, other ∈ _ → place ≠ other :=
        fun _ known same => absent (same ▸ known)
      obtain ⟨waiting, going⟩ := ih (goesOn_different different _)
      refine ⟨fun entry member => ?pending, fun entry member => ?underWay⟩
      case pending =>
        exact (waiting entry member).behind
          (elsewhere _ (List.mem_append_left _ (List.mem_map_of_mem member)))
      case underWay =>
        rcases List.mem_cons.mp (picked.mem_iff.mp member) with rfl | member
        · let turn := (Suspension.paused leg rest).resume.trace now
          have after : History pending (goesOn place others turn.value) _ stretches _ := later
          have own : Settles (.ofTurn place false turn :: stretches) place _ :=
            settles_turn after absent going
          obtain ⟨outcome, ⟨more, goes, acts⟩, ended⟩ := own
          exact ⟨outcome, acts ▸ .leg now goes, ended⟩
        · exact (going entry (mem_goesOn member _)).behind
            (elsewhere _ (List.mem_append_right _ (List.mem_map_of_mem member)))

section All

variable (history : History pending [] state stretches final)
  (different : (pending.map Prod.snd).Nodup)

include history different

/-- A unit that has ended has gone a course with that outcome. Witness: it has ended once. -/
theorem course {entry : UnitOfWork ε × Nat} (member : entry ∈ pending) {outcome : Outcome}
    (ended : (entry.2, outcome) ∈ stretches.filterMap Stretch.end?)
    : entry.1.work.Goes (Stretch.actsAt entry.2 stretches) outcome := by
  have ends := history.ends
  rw [List.map_nil, List.append_nil] at ends
  obtain ⟨settled, _⟩ := history.settles (by simpa using different)
  obtain ⟨other, goes, known⟩ := settled entry member
  have same := List.inj_on_of_nodup_map (ends.nodup_iff.mpr different) ended known rfl
  obtain rfl : outcome = other := congrArg Prod.snd same
  exact goes

/-- What was done is what was done at the places of the units, in some order. -/
theorem acts_perm
    : (stretches.flatMap Stretch.acts).Perm
        ((pending.map Prod.snd).flatMap fun place => Stretch.actsAt place stretches) :=
  Stretch.flatMap_acts_perm different fun stretch member => by
    simpa using history.places stretch member

/-- What shows of the acts at each place shows of all of them, in some order. -/
theorem view_places {α : Type} (view : Act → Option α) (shown : Nat → List α)
    (shows
      : ∀ place ∈ pending.map Prod.snd,
          (Stretch.actsAt place stretches).filterMap view = shown place)
    : ((stretches.flatMap Stretch.acts).filterMap view).Perm
        ((pending.map Prod.snd).flatMap shown) := by
  refine ((history.acts_perm different).filterMap view).trans ?_
  rw [List.filterMap_flatMap, List.flatMap_congr shows]

/-- What each unit shows on its course is shown by all of them, in some order. -/
theorem view_perm {α : Type} (view : Act → Option α) (shown : Nat → List α)
    (shows
      : ∀ entry ∈ pending,
          ∀ acts outcome,
            entry.1.work.Goes acts outcome
            → (entry.2, outcome) ∈ stretches.filterMap Stretch.end?
            → acts.filterMap view = shown entry.2)
    : ((stretches.flatMap Stretch.acts).filterMap view).Perm
        ((pending.map Prod.snd).flatMap shown) := by
  obtain ⟨settled, _⟩ := history.settles (by simpa using different)
  refine history.view_places different view shown fun place member => ?_
  obtain ⟨entry, known, rfl⟩ := List.mem_map.mp member
  obtain ⟨outcome, goes, ended⟩ := settled entry known
  exact shows entry known _ outcome goes ended

end All

end History

-----------------------------------------------------------------------------------------
-- Turns as histories
-----------------------------------------------------------------------------------------

/-- The trace of a progress follows a history of pending units and units under way; `earlier`
outcomes have come before it.
-/
def Recorded (pending : List (UnitOfWork ε × Nat)) (underWay : List (UnderWay ε)) (state : ε)
    (earlier : List (Nat × Outcome)) (trace : Trace Act ε Progress)
    : Prop :=
  ∃ stretches,
    History pending underWay state stretches trace.state
    ∧ trace.acts = stretches.flatMap Stretch.acts
    ∧ trace.value.outcomes = earlier ++ stretches.filterMap Stretch.end?

/-- The outcome of a turn, if the unit has ended in it. -/
def endOf (place : Nat) (left : Suspension Act ε Outcome) : List (Nat × Outcome) :=
  (left.value?.map (place, ·)).toList

/-- What a stretch brings in is the end of its turn. -/
theorem Stretch.end?_ofTurn (place : Nat) (begins : Bool)
    (turn : Trace Act ε (Suspension Act ε Outcome)) (rest : List Stretch)
    : (ofTurn place begins turn :: rest).filterMap end?
      = endOf place turn.value ++ rest.filterMap end? := by
  rw [List.filterMap_cons, end?, ofTurn, endOf]
  cases turn.value.value? <;> rfl

/-- A recorded trace stays recorded when a unit under way takes a turn before it, by one more
stretch.
-/
theorem Recorded.resume {pending : List (UnitOfWork ε × Nat)} {underWay others : List (UnderWay ε)}
    {state : ε} {earlier : List (Nat × Outcome)} {place : Nat} {leg : Run Act ε Unit}
    {rest : ε → Suspension Act ε Outcome} {trace : Trace Act ε Progress}
    (picked : underWay.Perm ((place, .paused leg rest) :: others))
    (recorded
      : Recorded pending (goesOn place others (rest state)) (leg.trace state).state
          (earlier ++ endOf place (rest state)) trace)
    : Recorded pending underWay state earlier (trace.behind (leg.trace state).acts) := by
  obtain ⟨stretches, history, acts, outcomes⟩ := recorded
  refine ⟨_, .resume picked history, ?_, ?_⟩
  · rw [Trace.behind_acts, acts, List.flatMap_cons]
    rfl
  · rw [Stretch.end?_ofTurn, Trace.behind_value, outcomes, List.append_assoc]
    rfl

/-- A recorded trace stays recorded when a pending unit starts before it, by one more stretch. -/
theorem Recorded.start {unit : UnitOfWork ε} {place : Nat} {pending : List (UnitOfWork ε × Nat)}
    {underWay : List (UnderWay ε)} {state : ε} {earlier : List (Nat × Outcome)}
    {trace : Trace Act ε Progress}
    (recorded
      : let turn := unit.work.turn.trace state
        Recorded pending (goesOn place underWay turn.value) turn.state
          (earlier ++ endOf place turn.value) trace)
    : Recorded ((unit, place) :: pending) underWay state earlier
        (trace.behind (unit.work.turn.trace state).acts) := by
  obtain ⟨stretches, history, acts, outcomes⟩ := recorded
  refine ⟨_, .start history, ?_, ?_⟩
  · rw [Trace.behind_acts, acts, List.flatMap_cons]
    rfl
  · rw [Stretch.end?_ofTurn, Trace.behind_value, outcomes, List.append_assoc]

/-- A waiting unit is under way; how many turns it has taken does not show in a history. -/
def Waiting.underWay (waiting : Waiting ε) : UnderWay ε :=
  (waiting.place, waiting.left)

/-- Turns without a cancellation follow a history of the waiting units.
Witness: induction on the turns, each of which is a stretch.
-/
theorem takeTurns_recorded (schedule : Schedule) (count : Nat) (progress : Progress)
    (waiting : List (Waiting ε)) (state : ε)
    (running : ((takeTurns schedule count progress waiting).trace state).value.cancelled = none)
    : Recorded [] (waiting.map Waiting.underWay) state progress.outcomes
        ((takeTurns schedule count progress waiting).trace state) := by
  revert running
  refine takeTurns_induction
    (motive := fun progress waiting state trace =>
      (progress.cancelled ≠ none → trace.value.cancelled ≠ none)
      ∧ (trace.value.cancelled = none
        → Recorded [] (waiting.map Waiting.underWay) state progress.outcomes trace))
    ?done ?late ?ended ?paused schedule count progress waiting state |>.2
  case done =>
    exact fun progress state => ⟨id, fun _ => ⟨[], .done, rfl, (List.append_nil _).symm⟩⟩
  case late =>
    -- a unit is passed over only behind a cancellation
    intro progress waiting chosen others state trace _ late ⟨cancelled, _⟩
    have gone := cancelled (Progress.cancelled_of_not_allows late)
    exact ⟨fun _ => gone, fun running => absurd running gone⟩
  case ended =>
    intro progress waiting chosen others state outcome trace picked left ⟨cancelled, ih⟩
    refine ⟨fun noted => cancelled (Progress.record_cancelled noted _ _ _),
      fun running => .resume (picked.map Waiting.underWay) ?_⟩
    rw [left]
    exact ih running
  case paused =>
    intro progress waiting chosen others state leg next trace picked left ⟨cancelled, ih⟩
    refine ⟨cancelled, fun running => .resume (picked.map Waiting.underWay) ?_⟩
    obtain ⟨stretches, history, acts, outcomes⟩ := ih running
    rw [left]
    refine ⟨stretches, history.perm ?_, acts, by rw [outcomes]; simp [endOf, Suspension.value?]⟩
    rw [List.map_append]
    exact List.perm_append_singleton _ _

/-- Starting units, and whatever follows a history of those that wait then, follows a history of
the units. Witness: induction on the units; a unit that ends in its first turn does not wait.
-/
theorem startAll_recorded (units : List (UnitOfWork ε)) (place : Nat) (progress : Progress)
    (underWay : List (UnderWay ε)) (state : ε) (trace : Trace Act ε Progress)
    (recorded
      : let started := (startAll place progress units).trace state
        Recorded [] (started.value.2.map Waiting.underWay ++ underWay) started.state
          started.value.1.outcomes trace)
    : Recorded (units.zipIdx place) underWay state progress.outcomes
        (trace.behind ((startAll place progress units).trace state).acts) := by
  induction units generalizing place progress underWay state with
  | nil => exact recorded
  | cons unit rest ih =>
      cases left : (unit.work.turn.trace state).value with
      | ended outcome =>
          rw [startAll_ended left] at recorded ⊢
          have after := ih (place + 1) _ underWay _ recorded
          rw [Trace.behind_acts, ← Trace.behind_behind]
          exact .start (by simpa only [left] using! after)
      | paused leg next =>
          -- the unit waits in front of the others, but its history starts before theirs
          simp only [startAll_paused left, List.map_cons, List.cons_append] at recorded ⊢
          have after := ih (place + 1) progress (_ :: underWay) _ (by
            obtain ⟨stretches, history, shown⟩ := recorded
            exact ⟨stretches, history.perm List.perm_middle.symm, shown⟩)
          rw [← Trace.behind_behind]
          refine .start ?_
          simpa only [left, endOf, Suspension.value?, Option.map_none, Option.toList_none,
            List.append_nil] using! after

/-- Units that run together without a cancellation follow a history in which all of them start.
Witness: the history of the starts, continued by that of the turns.
-/
theorem runTogether_recorded (schedule : Schedule) (units : List (UnitOfWork ε)) (state : ε)
    (running : ((runTogether schedule units).trace state).value.cancelled = none)
    : Recorded units.zipIdx [] state [] ((runTogether schedule units).trace state) := by
  simp only [runTogether, Run.trace_bind] at running ⊢
  apply startAll_recorded units 0 {} [] state
  simpa using takeTurns_recorded schedule 0 _ _ _ running

end Conductor
