import Conductor.Proofs.GroupOutcome

/-! Turns with reports in between. Units that report once their jobs have ended take more turns than
these jobs alone; but whatever turns they take, the jobs can take the same turns in the same order,
if they take no notice of the reports.
-/

namespace Conductor

variable {ε α β δ : Type}

-----------------------------------------------------------------------------------------
-- Acts with reports in between
-----------------------------------------------------------------------------------------

/-- What is done on the way of a report that comes through: it is handed over, what takes it does
deeds, and its delivery ends.
-/
def Act.OfReport : Act → Prop
  | .did _ => True
  | .reported _ => True
  | .delivered _ breakdown => breakdown = none
  | .built _ => False
  | .started _ => False
  | .ended _ _ => False

/-- Nothing that is done on the way of a report is the end of a job, by cases on the act. -/
theorem Act.OfReport.end?_eq_none (act : Act) (reports : act.OfReport) : act.end? = none := by
  cases act with
  | ended spec outcome => cases reports
  | _ => rfl

/-- `WithReports more acts` says that `more` are `acts` in their order, with acts of reports in
between.
-/
inductive WithReports : List Act → List Act → Prop where
  | nil : WithReports [] []
  | same {more acts} (act : Act) (later : WithReports more acts)
    : WithReports (act :: more) (act :: acts)
  | added {more acts act} (reports : Act.OfReport act) (later : WithReports more acts)
    : WithReports (act :: more) acts

namespace WithReports

variable {more more' acts acts' : List Act}

/-- Without a report more, acts are what they are, by induction on them. -/
theorem refl (acts : List Act) : WithReports acts acts := by
  induction acts with
  | nil => exact .nil
  | cons act rest ih => exact .same act ih

/-- Acts in a row have reports in between if the parts have, by induction on the first part. -/
theorem append (before : WithReports more acts) (after : WithReports more' acts')
    : WithReports (more ++ more') (acts ++ acts') := by
  induction before with
  | nil => exact after
  | same act _ ih => exact .same act ih
  | added reports _ ih => exact .added reports ih

/-- Acts of reports are added to whatever follows them, by induction on them. -/
theorem behind {reports : List Act} (all : ∀ act ∈ reports, act.OfReport)
    (after : WithReports more acts)
    : WithReports (reports ++ more) acts := by
  induction reports with
  | nil => exact after
  | cons act rest ih =>
      obtain ⟨first, others⟩ := List.forall_mem_cons.mp all
      exact .added first (ih others)

/-- A view that shows nothing of reports shows the same with reports in between, by induction on the
acts.
-/
theorem view_eq (view : Act → Option α) (blind : ∀ act, act.OfReport → view act = none)
    (with_ : WithReports more acts)
    : more.filterMap view = acts.filterMap view := by
  induction with_ with
  | nil => rfl
  | same act _ ih => rw [List.filterMap_cons, List.filterMap_cons, ih]
  | added reports _ ih => rw [List.filterMap_cons_none (blind _ reports), ih]

end WithReports

-----------------------------------------------------------------------------------------
-- Runs that take no notice
-----------------------------------------------------------------------------------------

/-- What is left of two runs is the same to states that are alike: from such states the next legs do
the same and leave states that are alike, up to the same value.
-/
inductive Suspension.Same (alike : ε → ε → Prop)
    : Suspension Act ε α → Suspension Act ε α → Prop where
  | ended (value : α) : Same alike (.ended value) (.ended value)
  | paused {leg leg' : Run Act ε Unit} {rest rest' : ε → Suspension Act ε α}
    (legs
      : ∀ state state',
          alike state state'
          → (leg.trace state).acts = (leg'.trace state').acts
            ∧ alike (leg.trace state).state (leg'.trace state').state)
    (rests : ∀ state state', alike state state' → Same alike (rest state) (rest' state'))
    : Same alike (.paused leg rest) (.paused leg' rest')

/-- A unit that takes states that are alike for the same. -/
def UnitOfWork.Steady (alike : ε → ε → Prop) (unit : UnitOfWork ε) : Prop :=
  ∀ state state',
    alike state state'
    → let turn := unit.work.turn.trace state
      let turn' := unit.work.turn.trace state'
      turn.acts = turn'.acts ∧ alike turn.state turn'.state ∧ turn.value.Same alike turn'.value

/-- A unit takes one and the same state for the same, by induction on what is left of it. -/
theorem UnitOfWork.steady_eq (unit : UnitOfWork ε) : unit.Steady Eq := by
  have same : ∀ left : Suspension Act ε Outcome, left.Same Eq left := by
    intro left
    induction left with
    | ended value => exact .ended value
    | paused leg rest ih =>
        refine .paused ?_ ?_
        · rintro state _ rfl
          exact ⟨rfl, rfl⟩
        · rintro state _ rfl
          exact ih state
  rintro state _ rfl
  exact ⟨rfl, rfl, same _⟩

/-- The kind of runs that are not noticed: whatever state is like one before is like it behind. -/
def Run.Kind.unnoticed (alike : ε → ε → Prop) : Run.Kind ε := fun _ run =>
  ∀ state other, alike state other → alike (run.trace state).state other

/-- The kind of runs that do nothing but report, unnoticed. -/
def Run.Kind.reporting (alike : ε → ε → Prop) : Run.Kind ε := fun α run =>
  unnoticed alike α run ∧ every Act.OfReport α run

theorem Run.Kind.unnoticed_closed (alike : ε → ε → Prop) : (unnoticed alike).Closed where
  pure _ _ _ both := both
  bind before after state other both := after state _ _ (before state other both)
  inState each state := each state state

theorem Run.Kind.reporting_closed (alike : ε → ε → Prop) : (reporting alike).Closed where
  pure value := ⟨(unnoticed_closed alike).pure value, (every_closed _).pure value⟩
  bind before after :=
    ⟨(unnoticed_closed alike).bind before.1 fun state => (after state).1,
      (every_closed _).bind before.2 fun state => (after state).2⟩
  inState each :=
    ⟨(unnoticed_closed alike).inState fun state => (each state).1,
      (every_closed _).inState fun state => (each state).2⟩

/-- The last outcome is no cancellation, and counts as the same failure of a unit of the name. -/
structure Outcome.Kept (name : String) (outcome last : Outcome) : Prop where
  settled : last.cancellation? = none
  failure : last.failure? name = outcome.failure? name

/-- A run does nothing but report, unnoticed, and keeps the outcome of a unit of the name. -/
structure Async.Reports (alike : ε → ε → Prop) (name : String) (outcome : Outcome)
    (tail : Async Act ε Outcome)
    : Prop where
  unnoticed : tail.IsOf (.reporting alike)
  kept : tail.Within (fun _ => True) (outcome.Kept name)

/-- The same of what is left of a run. -/
structure Suspension.Reports (alike : ε → ε → Prop) (name : String) (outcome : Outcome)
    (left : Suspension Act ε Outcome)
    : Prop where
  unnoticed : left.IsOf (.reporting alike)
  kept : left.Within (fun _ => True) (outcome.Kept name)

theorem Async.Reports.left {alike : ε → ε → Prop} {name : String} {outcome : Outcome}
    {tail : Async Act ε Outcome} (reports : tail.Reports alike name outcome) (state : ε)
    : (tail.turn.trace state).value.Reports alike name outcome :=
  ⟨reports.unnoticed.left state, reports.kept.left state⟩

theorem Suspension.Reports.rest {alike : ε → ε → Prop} {name : String} {outcome : Outcome}
    {leg : Run Act ε Unit} {rest : ε → Suspension Act ε Outcome}
    (reports : (paused leg rest).Reports alike name outcome) (state : ε)
    : (rest state).Reports alike name outcome :=
  ⟨reports.unnoticed.2 state, reports.kept.rest state⟩

-----------------------------------------------------------------------------------------
-- Turns that can be taken
-----------------------------------------------------------------------------------------

/-- Each element of a row can be taken out, by induction on the row. -/
theorem takeOut_of_mem {chosen first : α} {rest : List α} (member : chosen ∈ first :: rest)
    : ∃ pick ≤ rest.length, (takeOut pick first rest).1 = chosen := by
  induction rest generalizing first with
  | nil => exact ⟨0, Nat.le_refl 0, (List.mem_singleton.mp member).symm⟩
  | cons next rest ih =>
      rcases List.mem_cons.mp member with rfl | member
      · exact ⟨0, Nat.zero_le _, rfl⟩
      · obtain ⟨pick, within, taken⟩ := ih member
        exact ⟨pick + 1, Nat.succ_le_succ within, taken⟩

/-- Turns hang on what the schedule picks from then on, by induction on the turns. -/
theorem takeTurns_congr (schedule : Schedule) {schedule' : Schedule} (count : Nat)
    (progress : Progress) (row : List (Waiting ε))
    (same : ∀ n, count ≤ n → schedule n = schedule' n)
    : takeTurns schedule count progress row = takeTurns schedule' count progress row := by
  induction count, progress, row using turns_induction schedule with
  | none count progress => rw [takeTurns_nil, takeTurns_nil]
  | next count progress first rest picked turn dropped again =>
      have later : ∀ n, count + 1 ≤ n → schedule n = schedule' n :=
        fun n beyond => same n (Nat.le_of_succ_le beyond)
      have taken : takeOut (schedule' count % (rest.length + 1)) first rest = picked := by
        rw [← same count (Nat.le_refl count)]
      cases allowed : progress.allows turn with
      | false =>
          rw [takeTurns_passOver rfl allowed, takeTurns_passOver taken allowed]
          exact dropped progress later
      | true =>
          refine Run.ext fun state => ?_
          cases left : picked.1.rest state with
          | ended outcome =>
              rw [takeTurns_ended rfl allowed left, takeTurns_ended taken allowed left]
              exact congrArg (fun run => (Run.trace run _).behind _) (dropped _ later)
          | paused leg next =>
              rw [takeTurns_paused rfl allowed left, takeTurns_paused taken allowed left]
              exact congrArg (fun run => (Run.trace run _).behind _)
                (again state leg next left later)

/-- Whichever unit of a row is to take the next turn, some schedule picks it, and goes on like any
given one. Witness: the schedule that makes this pick now.
-/
theorem exists_schedule {chosen : Waiting ε} {row others : List (Waiting ε)}
    (picked : row.Perm (chosen :: others)) (count : Nat)
    : ∃ first rest left,
        row = first :: rest
        ∧ left.Perm others
        ∧ ∀ later : Schedule,
            ∃ schedule : Schedule,
              takeOut (schedule count % (rest.length + 1)) first rest = (chosen, left)
              ∧ ∀ progress (row : List (Waiting ε)),
                  takeTurns schedule (count + 1) progress row
                  = takeTurns later (count + 1) progress row := by
  cases row with
  | nil => exact nomatch List.nil_perm.mp picked
  | cons first rest =>
      obtain ⟨pick, within, taken⟩ := takeOut_of_mem (picked.mem_iff.mpr List.mem_cons_self)
      have same := (takeOut_perm pick first rest).symm.trans picked
      rw [taken] at same
      refine ⟨first, rest, _, rfl, same.cons_inv, fun later => ?_⟩
      refine ⟨fun n => if n = count then pick else later n, ?_, fun progress row => ?_⟩
      · simp only [if_true, Nat.mod_eq_of_lt (Nat.lt_succ_of_le within), ← taken]
      · refine takeTurns_congr _ _ _ _ fun n beyond => if_neg ?_
        exact Nat.ne_of_gt beyond

-----------------------------------------------------------------------------------------
-- Units that report, and their jobs
-----------------------------------------------------------------------------------------

/-- The turn in which what is left goes its next leg; what follows it begins if it ends with that
leg.
-/
def Suspension.onward (leg : Run β ε Unit) (rest : ε → Suspension β ε α) (next : α → Async β ε δ)
    : Run β ε (Suspension β ε δ) := fun state =>
  (((rest state).andThen next).turn.trace (leg.trace state).state).behind (leg.trace state).acts

/-- If what is left ends with its next leg, what follows it begins in the same turn. -/
theorem Suspension.onward_ended {leg : Run β ε Unit} {rest : ε → Suspension β ε α} {state : ε}
    {value : α} (ended : rest state = .ended value) (next : α → Async β ε δ)
    : (onward leg rest next).trace state
      = ((next value).turn.trace (leg.trace state).state).behind (leg.trace state).acts := by
  change Trace.behind _ _ = _
  rw [ended, andThen_ended]

/-- If what is left gives up control again behind its next leg, what follows it has to wait. -/
theorem Suspension.onward_paused {leg leg' : Run β ε Unit} {rest rest' : ε → Suspension β ε α}
    {state : ε} (paused : rest state = .paused leg' rest') (next : α → Async β ε δ)
    : (onward leg rest next).trace state
      = ⟨.ofTurn (onward leg' rest' next), (leg.trace state).state, (leg.trace state).acts⟩ := by
  change Trace.behind _ _ = _
  rw [paused]
  exact congrArg (Trace.mk _ _) (List.append_nil _)

/-- A waiting unit that is left to take a turn takes it. -/
theorem Waiting.next_eq {waiting : Waiting ε} {turn : Run Act ε (Suspension Act ε Outcome)}
    (left : waiting.left = .ofTurn turn) (state : ε)
    : waiting.rest state = (turn.trace state).value
      ∧ (waiting.leg.trace state).state = (turn.trace state).state
      ∧ (waiting.leg.trace state).acts = (turn.trace state).acts := by
  have same : waiting.left.resume.trace state = turn.trace state := by
    rw [left, Suspension.resume_ofTurn]
  exact ⟨congrArg Trace.value same, congrArg Trace.state same, congrArg Trace.acts same⟩

/-- A job, and what follows it. -/
def UnitOfWork.followedBy (tail : UnitOfWork ε → Outcome → Async Act ε Outcome)
    (job : UnitOfWork ε)
    : UnitOfWork ε :=
  ⟨job.name, job.work >>= tail job⟩

section Follows

variable (alike : ε → ε → Prop) (tail : UnitOfWork ε → Outcome → Async Act ε Outcome)
  (jobs : List (UnitOfWork ε))

/-- A unit that waits while its job is under way, and that job as it waits by itself. -/
structure Waiting.Runs (waiting waiting' : Waiting ε) : Prop where
  place : waiting.place = waiting'.place
  going
    : ∃ job leg rest,
        jobs[waiting.place]? = some job
        ∧ waiting.left = .ofTurn (Suspension.onward leg rest (tail job))
        ∧ (Suspension.paused leg rest).Same alike waiting'.left
  settled : waiting'.left.Within (fun _ => True) (·.cancellation? = none)

/-- A unit that waits while its report is under way; its job has come to its end by itself. -/
def Waiting.Trails (progress' : Progress) (waiting : Waiting ε) : Prop :=
  ∃ job outcome,
    jobs[waiting.place]? = some job
    ∧ (waiting.place, outcome) ∈ progress'.outcomes
    ∧ waiting.left.Reports alike job.name outcome

/-- What has come of units has come of their jobs: nothing is cancelled, and each outcome is kept
from that of the job.
-/
structure Progress.Follows (progress progress' : Progress) : Prop where
  running : progress.cancelled = none
  running' : progress'.cancelled = none
  outcomes
    : ∀ place last,
        (place, last) ∈ progress.outcomes
        → ∃ job outcome,
            jobs[place]? = some job
            ∧ (place, outcome) ∈ progress'.outcomes
            ∧ outcome.Kept job.name last

/-- A row of units follows a row of jobs: each of them waits with its job, or reports on its end. -/
def RowFollows (progress' : Progress) (row row' : List (Waiting ε)) : Prop :=
  ∃ running trailing,
    row.Perm (running ++ trailing)
    ∧ List.Forall₂ (Waiting.Runs alike tail jobs) running row'
    ∧ ∀ waiting ∈ trailing, waiting.Trails alike jobs progress'

/-- What comes of units that follow their jobs comes of these too, with reports in between. -/
structure Trace.Follows (trace trace' : Trace Act ε Progress) : Prop where
  value : trace.value.Follows jobs trace'.value
  state : alike trace.state trace'.state
  acts : WithReports trace.acts trace'.acts

end Follows

section Turns

variable {alike : ε → ε → Prop} {tail : UnitOfWork ε → Outcome → Async Act ε Outcome}
  {jobs : List (UnitOfWork ε)} {progress progress' : Progress}

theorem Trace.Follows.behind {trace trace' : Trace Act ε Progress} {acts acts' : List Act}
    (follows : trace.Follows alike jobs trace') (before : WithReports acts acts')
    : (trace.behind acts).Follows alike jobs (trace'.behind acts') :=
  ⟨follows.value, follows.state, before.append follows.acts⟩

/-- What comes of a unit whose job has come to its end is kept from that. -/
theorem Progress.Follows.record (follows : progress.Follows jobs progress') {place : Nat}
    {job : UnitOfWork ε} {outcome last : Outcome} (named : jobs[place]? = some job)
    (came : (place, outcome) ∈ progress'.outcomes) (kept : outcome.Kept job.name last) (turn : Nat)
    : (progress.record place turn last).Follows jobs progress' where
  running := by simp [Progress.record, follows.running, kept.settled]
  running' := follows.running'
  outcomes := by
    intro other ended member
    rcases List.mem_append.mp member with member | member
    · exact follows.outcomes other ended member
    · cases List.mem_singleton.mp member
      exact ⟨job, outcome, named, came, kept⟩

/-- The jobs may be ahead of the units. -/
theorem Progress.Follows.ahead (follows : progress.Follows jobs progress') {outcome : Outcome}
    (settled : outcome.cancellation? = none) (place turn : Nat)
    : progress.Follows jobs (progress'.record place turn outcome) where
  running := follows.running
  running' := by simp [Progress.record, follows.running', settled]
  outcomes := by
    intro other last member
    obtain ⟨job, ended, named, came, kept⟩ := follows.outcomes other last member
    exact ⟨job, ended, named, List.mem_append_left _ came, kept⟩

theorem Waiting.Trails.mono {waiting : Waiting ε} (trails : waiting.Trails alike jobs progress)
    (grown : progress.outcomes ⊆ progress'.outcomes)
    : waiting.Trails alike jobs progress' := by
  obtain ⟨job, outcome, named, came, left⟩ := trails
  exact ⟨job, outcome, named, grown came, left⟩

theorem Progress.record_grows (progress : Progress) (place turn : Nat) (outcome : Outcome)
    : progress.outcomes ⊆ (progress.record place turn outcome).outcomes :=
  List.subset_append_left _ _

/-- With an element of a row that follows another, the element that it follows is found. -/
theorem forall₂_of_mem {R : α → β → Prop} {row : List α} {row' : List β}
    (related : List.Forall₂ R row row') {item : α} (member : item ∈ row)
    : ∃ item' others others',
        row.Perm (item :: others)
        ∧ row'.Perm (item' :: others')
        ∧ R item item'
        ∧ List.Forall₂ R others others' := by
  induction related with
  | nil => cases member
  | @cons first first' rest rest' head tail ih =>
      rcases List.mem_cons.mp member with rfl | member
      · exact ⟨first', rest, rest', .refl _, .refl _, head, tail⟩
      · obtain ⟨item', others, others', same, same', both, left⟩ := ih member
        exact ⟨item', first :: others, first' :: others', (same.cons first).trans (.swap _ _ _),
          (same'.cons first').trans (.swap _ _ _), both, .cons head left⟩

/-- A row that follows another follows it in any order. -/
theorem forall₂_perm {R : α → β → Prop} {row : List α} {row' other : List β}
    (related : List.Forall₂ R row row') (same : other.Perm row')
    : ∃ row₂, row.Perm row₂ ∧ List.Forall₂ R row₂ other := by
  obtain ⟨row₂, both, moved⟩ := List.perm_comp_forall₂ same related.flip
  exact ⟨row₂, moved.symm, both.flip⟩

namespace RowFollows

variable {row row' others : List (Waiting ε)} {waiting waiting' chosen : Waiting ε}

theorem mono (rows : RowFollows alike tail jobs progress row row')
    (grown : progress.outcomes ⊆ progress'.outcomes)
    : RowFollows alike tail jobs progress' row row' := by
  obtain ⟨running, trailing, same, runs, trails⟩ := rows
  exact ⟨running, trailing, same, runs, fun waiting member => (trails waiting member).mono grown⟩

/-- A unit that reports may wait at the end of the row. -/
theorem trail (rows : RowFollows alike tail jobs progress' row row')
    (trails : waiting.Trails alike jobs progress')
    : RowFollows alike tail jobs progress' (row ++ [waiting]) row' := by
  obtain ⟨running, trailing, same, runs, others⟩ := rows
  refine ⟨running, trailing ++ [waiting], ?_, runs, ?_⟩
  · rw [← List.append_assoc]
    exact same.append_right _
  · exact List.forall_mem_append.mpr ⟨others, List.forall_mem_singleton.mpr trails⟩

/-- A unit whose job is under way may wait at the end of the row, as the job does. -/
theorem run (rows : RowFollows alike tail jobs progress' row row')
    (runs : waiting.Runs alike tail jobs waiting')
    : RowFollows alike tail jobs progress' (row ++ [waiting]) (row' ++ [waiting']) := by
  obtain ⟨running, trailing, same, others, trails⟩ := rows
  refine ⟨running ++ [waiting], trailing, (same.append_right _).trans ?_,
    List.rel_append others (.cons runs .nil), trails⟩
  rw [List.append_assoc, List.append_assoc]
  exact List.perm_append_comm.append_left running

/-- The order of the rows does not matter. -/
theorem perm (rows : RowFollows alike tail jobs progress' row row') {row₂ row₂' : List (Waiting ε)}
    (same : row₂.Perm row) (same' : row₂'.Perm row')
    : RowFollows alike tail jobs progress' row₂ row₂' := by
  obtain ⟨running, trailing, split, runs, trails⟩ := rows
  obtain ⟨running₂, moved, runs⟩ := forall₂_perm runs same'
  exact ⟨running₂, trailing, same.trans (split.trans (moved.append_right trailing)), runs, trails⟩

/-- Whichever unit of a row is picked, it reports and the others follow the jobs, or it goes with a
job and the others follow the other jobs.
-/
theorem pick (rows : RowFollows alike tail jobs progress' row row')
    (picked : row.Perm (chosen :: others))
    : (chosen.Trails alike jobs progress' ∧ RowFollows alike tail jobs progress' others row')
      ∨ ∃ own others',
          row'.Perm (own :: others')
          ∧ chosen.Runs alike tail jobs own
          ∧ ∀ onto : List (Waiting ε),
              onto.Perm others' → RowFollows alike tail jobs progress' others onto := by
  obtain ⟨running, trailing, same, runs, trails⟩ := rows
  have taken := picked.symm.trans same
  rcases List.mem_append.mp (taken.mem_iff.mp List.mem_cons_self) with member | member
  · obtain ⟨own, left, others', split, split', going, related⟩ := forall₂_of_mem runs member
    refine Or.inr ⟨own, others', split', going, fun onto moved => ?_⟩
    obtain ⟨left₂, moved', related⟩ := forall₂_perm related moved
    refine ⟨left₂, trailing, ?_, related, trails⟩
    have split := taken.trans (split.append_right trailing)
    exact split.cons_inv.trans (moved'.append_right trailing)
  · have own := trails chosen member
    obtain ⟨before, after, rfl⟩ := List.append_of_mem member
    refine Or.inl ⟨own, running, before ++ after, ?_, runs, fun waiting member => ?_⟩
    · have moved
        : (running ++ (before ++ chosen :: after)).Perm
            (chosen :: (running ++ (before ++ after))) :=
        (List.perm_middle.append_left running).trans List.perm_middle
      exact (taken.trans moved).cons_inv
    · exact trails waiting (List.perm_middle.mem_iff.mpr (List.mem_cons_of_mem _ member))

end RowFollows

theorem Suspension.Same.of_ended {value : α} {left' : Suspension Act ε α}
    (same : (Suspension.ended value).Same alike left')
    : left' = .ended value := by
  cases same
  rfl

theorem Suspension.Same.of_paused {leg : Run Act ε Unit} {rest : ε → Suspension Act ε α}
    {left' : Suspension Act ε α} (same : (Suspension.paused leg rest).Same alike left')
    : ∃ leg' rest', left' = .paused leg' rest' := by
  cases same
  exact ⟨_, _, rfl⟩

/-- What follows each job once it has ended with some outcome, other than by a cancellation, does
nothing but report, unnoticed, and keeps that outcome.
-/
def AllReport (alike : ε → ε → Prop) (tail : UnitOfWork ε → Outcome → Async Act ε Outcome)
    (jobs : List (UnitOfWork ε))
    : Prop :=
  ∀ job ∈ jobs,
    ∀ outcome, outcome.cancellation? = none → (tail job outcome).Reports alike job.name outcome

/-- A unit whose job is under way takes its turn with the job. Either the job ends, and the unit
goes on to report, or both wait again.
Witness: by cases on what the turn of the job leaves.
-/
theorem Waiting.Runs.turn (reports : AllReport alike tail jobs) {waiting waiting' : Waiting ε}
    (runs : waiting.Runs alike tail jobs waiting') {state state' : ε} (both : alike state state')
    : alike (waiting.leg.trace state).state (waiting'.leg.trace state').state
      ∧ WithReports (waiting.leg.trace state).acts (waiting'.leg.trace state').acts
      ∧ ((∃ job outcome,
            jobs[waiting.place]? = some job
            ∧ waiting'.rest state' = .ended outcome
            ∧ outcome.cancellation? = none
            ∧ (waiting.rest state).Reports alike job.name outcome)
        ∨ ∃ leg rest leg' rest',
            waiting.rest state = .paused leg rest
            ∧ waiting'.rest state' = .paused leg' rest'
            ∧ ∀ turns turns',
                Waiting.Runs alike tail jobs ⟨waiting.place, turns, leg, rest⟩
                  ⟨waiting'.place, turns', leg', rest'⟩) := by
  obtain ⟨place, ⟨job, leg, rest, named, left, same⟩, settled⟩ := runs
  obtain ⟨value, stays, acts⟩ := Waiting.next_eq left state
  have settled : (Suspension.paused waiting'.leg waiting'.rest).Within (fun _ => True)
      (·.cancellation? = none) := settled
  have later := settled.rest state'
  have same : (Suspension.paused leg rest).Same alike (.paused waiting'.leg waiting'.rest) := same
  rcases same with _ | ⟨legs, rests⟩
  obtain ⟨did, still⟩ := legs state state' both
  have going := rests state state' both
  cases ended : rest state with
  | ended outcome =>
      rw [ended] at going
      rw [going.of_ended] at later
      have tailed := reports job (List.mem_of_getElem? named) outcome later.of_ended
      obtain ⟨unnoticed, reported⟩ := tailed.unnoticed.turn
      rw [Suspension.onward_ended ended] at value stays acts
      rw [stays, acts, Trace.behind_acts, did, value]
      have added := WithReports.behind (reported (leg.trace state).state) .nil
      rw [List.append_nil] at added
      refine ⟨unnoticed _ _ still, ?_, Or.inl ⟨job, outcome, named, going.of_ended, later.of_ended,
        tailed.left _⟩⟩
      simpa using (WithReports.refl (waiting'.leg.trace state').acts).append added
  | paused leg₂ rest₂ =>
      rw [ended] at going
      obtain ⟨leg', rest', left'⟩ := going.of_paused
      rw [left'] at going later
      rw [Suspension.onward_paused ended] at value stays acts
      rw [stays, acts, did]
      exact ⟨still, .refl _, Or.inr ⟨_, _, leg', rest', value, left', fun turns turns' =>
        ⟨place, ⟨job, leg₂, rest₂, named, rfl, going⟩, later⟩⟩⟩

/-- Units that follow their jobs take turns, and under some schedule the jobs take the same turns.
Witness: induction on the turns; a turn of a job is taken on both sides, and the jobs pass over the
turn of a report.
-/
theorem takeTurns_follows (reports : AllReport alike tail jobs) (schedule : Schedule)
    (count count' : Nat) (progress progress' : Progress) (row row' : List (Waiting ε))
    {state state' : ε} (both : alike state state') (follows : progress.Follows jobs progress')
    (rows : RowFollows alike tail jobs progress' row row')
    : ∃ schedule',
        ((takeTurns schedule count progress row).trace state).Follows alike jobs
          ((takeTurns schedule' count' progress' row').trace state') := by
  induction count, progress, row using turns_induction schedule
    generalizing count' progress' row' state state' with
  | none count progress =>
      obtain ⟨running, trailing, same, runs, _⟩ := rows
      obtain ⟨rfl, rfl⟩ := List.append_eq_nil_iff.mp (List.nil_perm.mp same)
      cases runs
      refine ⟨schedule, ?_⟩
      rw [takeTurns_nil, takeTurns_nil]
      exact ⟨follows, both, .nil⟩
  | next count progress first rest picked turn dropped again =>
      have taken := takeOut_perm (schedule count % (rest.length + 1)) first rest
      have allowed : progress.allows turn = true := by simp [Progress.allows, follows.running]
      -- a unit that reports behind this turn follows its job, whatever row the others follow
      have reporting {job : UnitOfWork ε} {outcome : Outcome} {progress' : Progress}
          {row' : List (Waiting ε)} {now' : ε} (named : jobs[picked.1.place]? = some job)
          (left : (picked.1.rest state).Reports alike job.name outcome)
          (follows : progress.Follows jobs progress')
          (came : (picked.1.place, outcome) ∈ progress'.outcomes)
          (rows : RowFollows alike tail jobs progress' picked.2 row') (count' : Nat)
          (both : alike (picked.1.leg.trace state).state now')
          : ∃ (trace : Trace Act ε Progress) (schedule' : Schedule),
              (takeTurns schedule count progress (first :: rest)).trace state
                = trace.behind (picked.1.leg.trace state).acts
              ∧ trace.Follows alike jobs
                  ((takeTurns schedule' count' progress' row').trace now') := by
        cases last : picked.1.rest state with
        | ended ended =>
            rw [last] at left
            obtain ⟨schedule', later⟩ := dropped _ count' progress' row' both
              (follows.record named came left.kept.of_ended turn) rows
            exact ⟨_, schedule', takeTurns_ended rfl allowed last, later⟩
        | paused leg next =>
            rw [last] at left
            obtain ⟨schedule', later⟩ := again state leg next last count' progress' row' both
              follows (rows.trail ⟨job, outcome, named, came, left⟩)
            exact ⟨_, schedule', takeTurns_paused rfl allowed last, later⟩
      rcases rows.pick taken with ⟨⟨job, outcome, named, came, left⟩, others⟩ |
        ⟨own, others', picked', runs, others⟩
      · -- a report goes on, and the jobs do nothing
        obtain ⟨⟨unnoticed, reported⟩, _⟩ := left.unnoticed
        obtain ⟨trace, schedule', turned, later⟩ := reporting named (left.rest state) follows came
          others count' (unnoticed state state' both)
        exact ⟨schedule', turned ▸ ⟨later.value, later.state, .behind (reported state) later.acts⟩⟩
      · -- a job goes on, with or without its report
        obtain ⟨first', rest', onto, rfl, moved, schedules⟩ := exists_schedule picked' count'
        have allowed' : progress'.allows (own.turns + 1) = true := by
          simp [Progress.allows, follows.running']
        have place := runs.place
        obtain ⟨still, acts, ⟨job, outcome, named, ended, settled, left⟩ |
          ⟨leg, next, leg', next', left, left', waits⟩⟩ := runs.turn reports both
        · have grown := progress'.record_grows own.place (own.turns + 1) outcome
          obtain ⟨trace, later, turned, follows⟩ := reporting named left
            (follows.ahead settled own.place (own.turns + 1))
            (List.mem_append_right _ (List.mem_singleton.mpr (congrArg (·, outcome) place)))
            ((others onto moved).mono grown) (count' + 1) still
          obtain ⟨schedule', taken', onward⟩ := schedules later
          refine ⟨schedule', ?_⟩
          rw [turned, takeTurns_ended taken' allowed' ended, onward]
          exact follows.behind acts
        · obtain ⟨later, follows⟩ :=
            again state leg next left (count' + 1) progress' _ still follows
              ((others onto moved).run (waits turn (own.turns + 1)))
          obtain ⟨schedule', taken', onward⟩ := schedules later
          refine ⟨schedule', ?_⟩
          rw [takeTurns_paused rfl allowed left, takeTurns_paused taken' allowed' left', onward]
          exact follows.behind acts

/-- A unit before its first turn, as one that waits for it. -/
def Waiting.toStart (place : Nat) (unit : UnitOfWork ε) : Waiting ε where
  place := place
  turns := 0
  leg state := ⟨(), (unit.work.turn.trace state).state, (unit.work.turn.trace state).acts⟩
  rest state := (unit.work.turn.trace state).value

/-- Before its first turn a unit goes with its job, if that takes states that are alike for the same
and is not cancelled.
-/
theorem Waiting.Runs.toStart {job : UnitOfWork ε} (steady : job.Steady alike)
    (uncancelled : job.Uncancelled) {place : Nat} (named : jobs[place]? = some job)
    : Waiting.Runs alike tail jobs (.toStart place (job.followedBy tail)) (.toStart place job) where
  place := rfl
  going := by
    refine ⟨job, (Waiting.toStart place job).leg, (Waiting.toStart place job).rest, named, rfl, ?_⟩
    refine .paused (fun state state' both => ?_) fun state state' both => ?_
    · exact ⟨(steady state state' both).1, (steady state state' both).2.1⟩
    · exact (steady state state' both).2.2
  settled := by
    intro acts outcome goes
    have goes : (Suspension.ofTurn job.work.turn).Goes acts outcome := goes
    exact ⟨fun _ _ => trivial, uncancelled acts outcome goes.of_ofTurn⟩

/-- Units start and follow their jobs, which start in the same order, by induction on the jobs. -/
theorem startAll_follows (reports : AllReport alike tail jobs) {rest : List (UnitOfWork ε)}
    (place : Nat) (named : ∀ index job, rest[index]? = some job → jobs[place + index]? = some job)
    (steady : ∀ job ∈ rest, job.Steady alike) (uncancelled : ∀ job ∈ rest, job.Uncancelled)
    {state state' : ε} (both : alike state state') (follows : progress.Follows jobs progress')
    : let started := (startAll place progress (rest.map (UnitOfWork.followedBy tail))).trace state
      let started' := (startAll place progress' rest).trace state'
      started.value.1.Follows jobs started'.value.1
      ∧ alike started.state started'.state
      ∧ WithReports started.acts started'.acts
      ∧ RowFollows alike tail jobs started'.value.1 started.value.2 started'.value.2
      ∧ progress'.outcomes ⊆ started'.value.1.outcomes := by
  induction rest generalizing place progress progress' state state' with
  | nil => exact ⟨follows, both, .nil, ⟨[], [], .nil, .nil, nofun⟩, fun _ => id⟩
  | cons job rest ih =>
      obtain ⟨own, others⟩ := List.forall_mem_cons.mp steady
      obtain ⟨settles, settled⟩ := List.forall_mem_cons.mp uncancelled
      have next : ∀ index job, rest[index]? = some job → jobs[place + 1 + index]? = some job := by
        intro index job there
        have later := named (index + 1) job there
        rwa [← Nat.add_assoc, Nat.add_right_comm] at later
      have first : jobs[place]? = some job := named 0 job rfl
      have runs : Waiting.Runs alike tail jobs _ _ := .toStart own settles first
      obtain ⟨still, acts, ⟨named, outcome, known, ended, running, left⟩ |
        ⟨leg, later, leg', later', waits, waits', going⟩⟩ := runs.turn reports both
      · have ended : (job.work.turn.trace state').value = .ended outcome := ended
        have ahead := follows.ahead running place 1
        have came : (place, outcome) ∈ (progress'.record place 1 outcome).outcomes :=
          List.mem_append_right _ (List.mem_singleton_self _)
        have left
          : ((job.followedBy tail).work.turn.trace state).value.Reports alike named.name
              outcome :=
          left
        rw [startAll_ended ended]
        cases last : ((job.followedBy tail).work.turn.trace state).value with
        | ended value =>
            rw [last] at left
            have kept : outcome.Kept named.name value := left.kept.of_ended
            obtain ⟨value, state, others', rows, grown⟩ :=
              ih (place + 1) next others settled still (ahead.record known came kept 1)
            rw [List.map_cons, startAll_ended last]
            exact ⟨value, state, acts.append others', rows,
              fun _ member => grown (progress'.record_grows _ _ _ member)⟩
        | paused leg later =>
            rw [last] at left
            obtain ⟨value, state, others', rows, grown⟩ :=
              ih (place + 1) next others settled still ahead
            rw [List.map_cons, startAll_paused last]
            have trails : Waiting.Trails alike jobs _ ⟨place, 1, leg, later⟩ :=
              ⟨named, outcome, known, grown came, left⟩
            exact ⟨value, state, acts.append others',
              (rows.trail trails).perm (List.perm_append_singleton _ _).symm (.refl _),
              fun _ member => grown (progress'.record_grows _ _ _ member)⟩
      · have waits : ((job.followedBy tail).work.turn.trace state).value = .paused leg later :=
          waits
        have waits' : (job.work.turn.trace state').value = .paused leg' later' := waits'
        obtain ⟨value, state, others', rows, grown⟩ :=
          ih (place + 1) next others settled still follows
        rw [List.map_cons, startAll_paused waits, startAll_paused waits']
        exact ⟨value, state, acts.append others', (rows.run (going 1 1)).perm
          (List.perm_append_singleton _ _).symm (List.perm_append_singleton _ _).symm, grown⟩

/-- Units that follow their jobs run together, and under some schedule what comes of the jobs is the
same, with reports in between.
-/
theorem runTogether_follows (reports : AllReport alike tail jobs)
    (steady : ∀ job ∈ jobs, job.Steady alike) (uncancelled : ∀ job ∈ jobs, job.Uncancelled)
    (schedule : Schedule) {state state' : ε} (both : alike state state')
    : ∃ schedule',
        ((runTogether schedule (jobs.map (UnitOfWork.followedBy tail))).trace state).Follows alike
          jobs
          ((runTogether schedule' jobs).trace state') := by
  have named : ∀ index job, jobs[index]? = some job → jobs[0 + index]? = some job := by simp
  have empty : Progress.Follows jobs {} {} := ⟨rfl, rfl, nofun⟩
  obtain ⟨follows, still, acts, rows, _⟩ :=
    startAll_follows reports 0 named steady uncancelled both empty
  obtain ⟨schedule', later⟩ := takeTurns_follows reports schedule 0 0 _ _ _ _ still follows rows
  exact ⟨schedule', later.behind acts⟩

/-- Jobs of which all that has come is kept fail as the units do that follow them. -/
theorem Group.failures_follows (follows : progress.Follows jobs progress')
    (places : (progress.outcomes.map Prod.fst).Perm (List.range jobs.length))
    (places' : (progress'.outcomes.map Prod.fst).Perm (List.range jobs.length))
    : failures (jobs.map (UnitOfWork.followedBy tail)) progress.outcomes
      = failures jobs progress'.outcomes := by
  have names : (jobs.map (UnitOfWork.followedBy tail)).map UnitOfWork.name
      = jobs.map UnitOfWork.name := by
    rw [List.map_map]
    rfl
  rw [failures_eq, failures_eq, names]
  refine List.filterMap_congr ?_
  rintro ⟨name, place⟩ member
  obtain ⟨job, there, rfl⟩ := Option.map_eq_some_iff.mp
    (List.getElem?_map .. ▸ List.mem_zipIdx_iff_getElem?.mp member)
  obtain ⟨within, _⟩ := List.getElem?_eq_some_iff.mp there
  obtain ⟨⟨_, last⟩, known, rfl⟩ := List.mem_map.mp (places.mem_iff.mpr (List.mem_range.mpr within))
  obtain ⟨_, outcome, there', came, kept⟩ := follows.outcomes _ last known
  cases there.symm.trans there'
  dsimp only
  rw [(lookup_eq_some_iff_mem (places.nodup_iff.mpr List.nodup_range) _ _).mpr known,
    (lookup_eq_some_iff_mem (places'.nodup_iff.mpr List.nodup_range) _ _).mpr came]
  exact kept.failure

/-- A group of units that follow their jobs comes to what the jobs come to under some schedule, with
reports in between.
-/
theorem Group.runAll_follows (reports : AllReport alike tail jobs)
    (steady : ∀ job ∈ jobs, job.Steady alike) (uncancelled : ∀ job ∈ jobs, job.Uncancelled)
    (schedule : Schedule) {state state' : ε} (both : alike state state')
    : ∃ schedule',
        let trace := (runAll schedule (jobs.map (UnitOfWork.followedBy tail))).trace state
        let trace' := (runAll schedule' jobs).trace state'
        trace.value = trace'.value ∧ WithReports trace.acts trace'.acts := by
  by_cases empty : jobs = []
  · subst empty
    exact ⟨schedule, rfl, .nil⟩
  have nonempty : jobs.map (UnitOfWork.followedBy tail) ≠ [] := by simpa using empty
  obtain ⟨schedule', follows, _, acts⟩ :=
    runTogether_follows reports steady uncancelled schedule both
  have places := runTogether_places schedule _ state follows.running
  have places' := runTogether_places schedule' _ state' follows.running'
  rw [List.length_map] at places
  have opened : opening (jobs.map (UnitOfWork.followedBy tail)) = opening jobs := by
    rw [opening, opening, List.length_map, List.map_map]
    rfl
  refine ⟨schedule', ?_⟩
  rw [runAll_trace schedule nonempty state follows.running,
    runAll_trace schedule' empty state' follows.running',
    failures_follows follows places places', opened, List.length_map]
  exact ⟨rfl, .same _ (acts.append (.refl _))⟩

end Turns

end Conductor
