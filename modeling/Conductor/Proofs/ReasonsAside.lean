import Conductor.Proofs.GroupOutcome

/-! Reasons aside. The reason of a failure with an exit code is not told on the console while units
of work run: units that end with the same failures, but for such reasons, look the same there, be
they settled one by one or run as a group.
-/

namespace Conductor

variable {ε α β γ δ : Type}

-----------------------------------------------------------------------------------------
-- Failures and outcomes
-----------------------------------------------------------------------------------------

/-- Two failures that are the same, the reasons aside if they have an exit code. -/
structure UnitFailure.Aside (failure failure' : UnitFailure) : Prop where
  job : failure.job = failure'.job
  exitCode : failure.exitCode = failure'.exitCode
  reason : failure.exitCode = none → failure.reason = failure'.reason

theorem UnitFailure.Aside.refl (failure : UnitFailure) : failure.Aside failure :=
  ⟨rfl, rfl, fun _ => rfl⟩

/-- The message of a failure has the reason only if there is no exit code. -/
theorem UnitFailure.Aside.message {failure failure' : UnitFailure} (both : failure.Aside failure')
    : failure.message = failure'.message := by
  unfold UnitFailure.message
  rw [← both.exitCode, ← both.job]
  cases coded : failure.exitCode with
  | some code => rfl
  | none => rw [both.reason coded]

/-- Failures in a row have the same messages and jobs, reasons aside. -/
theorem UnitFailure.Aside.map {failures failures' : List UnitFailure} {shown : UnitFailure → α}
    (both : List.Forall₂ UnitFailure.Aside failures failures')
    (same : ∀ {failure failure'}, failure.Aside failure' → shown failure = shown failure')
    : failures.map shown = failures'.map shown := by
  induction both with
  | nil => rfl
  | cons first _ ih => rw [List.map_cons, List.map_cons, same first, ih]

/-- Two outcomes that are the same, reasons aside. -/
inductive Outcome.Aside : Outcome → Outcome → Prop where
  | same (outcome : Outcome) : Aside outcome outcome
  | failed {failure failure' : UnitFailure} (both : failure.Aside failure')
    : Aside (.failed failure) (.failed failure')

namespace Outcome.Aside

variable {outcome outcome' : Outcome}

theorem cancellation? (both : outcome.Aside outcome')
    : outcome.cancellation? = outcome'.cancellation? := by
  cases both <;> rfl

/-- Outcomes count as the same failure, the reasons aside, by cases on what they have in common. -/
theorem failure? (both : outcome.Aside outcome') (name : String)
    : Option.Rel UnitFailure.Aside (outcome.failure? name) (outcome'.failure? name) := by
  cases both with
  | same =>
      cases outcome.failure? name with
      | none => exact .none
      | some failure => exact .some (.refl failure)
  | failed both => exact .some both

end Outcome.Aside

-----------------------------------------------------------------------------------------
-- Runs
-----------------------------------------------------------------------------------------

/-- Two traces that look the same: their values agree, they leave the same state, and they write the
same messages.
-/
structure Trace.Aside (agree : α → β → Prop) (trace : Trace Act ε α) (trace' : Trace Act ε β)
    : Prop where
  value : agree trace.value trace'.value
  state : trace.state = trace'.state
  messages : trace.acts.filterMap Act.message? = trace'.acts.filterMap Act.message?

theorem Trace.Aside.behind {agree : α → β → Prop} {trace : Trace Act ε α} {trace' : Trace Act ε β}
    {acts acts' : List Act} (both : trace.Aside agree trace')
    (before : acts.filterMap Act.message? = acts'.filterMap Act.message?)
    : (trace.behind acts).Aside agree (trace'.behind acts') where
  value := both.value
  state := both.state
  messages := by
    rw [Trace.behind_acts, Trace.behind_acts, List.filterMap_append, List.filterMap_append, before,
      both.messages]

/-- From every state, two runs look the same. -/
def Run.Aside (agree : α → β → Prop) (run : Run Act ε α) (run' : Run Act ε β) : Prop :=
  ∀ state, (run.trace state).Aside agree (run'.trace state)

namespace Run.Aside

theorem pure {agree : α → β → Prop} {value : α} {value' : β} (both : agree value value')
    : Run.Aside agree (pure value : Run Act ε α) (pure value') :=
  fun _ => ⟨both, rfl, rfl⟩

/-- Runs in two parts look the same if both parts do. -/
theorem bind {agree : α → β → Prop} {agree' : γ → δ → Prop} {first : Run Act ε α}
    {first' : Run Act ε β} {next : α → Run Act ε γ} {next' : β → Run Act ε δ}
    (before : first.Aside agree first')
    (after : ∀ value value', agree value value' → (next value).Aside agree' (next' value'))
    : (first >>= next).Aside agree' (first' >>= next') := by
  intro state
  obtain ⟨value, later, messages⟩ := before state
  rw [Run.trace_bind, Run.trace_bind, ← later]
  exact (after _ _ value _).behind messages

end Run.Aside

theorem Run.Aside.same (run : Run Act ε α) : run.Aside (· = ·) run :=
  fun _ => ⟨rfl, rfl, rfl⟩

/-- What is left of two runs looks the same: they have ended with values that agree, or go the same
leg and go on alike from every state.
-/
inductive Suspension.Aside (agree : α → β → Prop)
    : Suspension Act ε α → Suspension Act ε β → Prop where
  | ended {value : α} {value' : β} (both : agree value value')
    : Aside agree (.ended value) (.ended value')
  | paused {leg leg' : Run Act ε Unit} {rest : ε → Suspension Act ε α}
    {rest' : ε → Suspension Act ε β} (legs : leg.Aside (· = ·) leg')
    (rests : ∀ state, Aside agree (rest state) (rest' state))
    : Aside agree (.paused leg rest) (.paused leg' rest')

/-- Two runs that may give up control look the same, turn by turn. -/
def Async.Aside (agree : α → β → Prop) (async : Async Act ε α) (async' : Async Act ε β) : Prop :=
  async.turn.Aside (Suspension.Aside agree) async'.turn

/-- What follows what looks the same does so, if it looks the same from values that agree. Witness:
induction on what the two have in common.
-/
theorem Suspension.Aside.andThen {agree : α → β → Prop} {agree' : γ → δ → Prop}
    {left : Suspension Act ε α} {left' : Suspension Act ε β} {next : α → Async Act ε γ}
    {next' : β → Async Act ε δ} (before : left.Aside agree left')
    (after : ∀ value value', agree value value' → (next value).Aside agree' (next' value'))
    : (left.andThen next).Aside agree' (left'.andThen next') := by
  induction before with
  | ended both => exact after _ _ both
  | @paused leg leg' rest rest' legs _ ih =>
      have turns (state : ε)
          : ((((rest state).andThen next).turn.trace (leg.trace state).state).behind
              (leg.trace state).acts).Aside (Suspension.Aside agree')
            ((((rest' state).andThen next').turn.trace (leg'.trace state).state).behind
              (leg'.trace state).acts) := by
        rw [← (legs state).state]
        exact (ih state _).behind (legs state).messages
      exact .pure (.paused (fun state => ⟨rfl, (turns state).state, (turns state).messages⟩)
        fun state => (turns state).value)

/-- What is left is brought to its end alike, by induction on what the two have in common. -/
theorem Suspension.Aside.finish {agree : α → β → Prop} {left : Suspension Act ε α}
    {left' : Suspension Act ε β} (both : left.Aside agree left')
    : left.finish.Aside agree left'.finish := by
  induction both with
  | ended both => exact .pure both
  | @paused leg leg' rest rest' legs _ ih =>
      intro state
      rw [trace_finish_paused, trace_finish_paused, ← (legs state).state]
      exact (ih state _).behind (legs state).messages

/-- What is left of a run looks like itself, by induction on it. -/
theorem Suspension.Aside.refl (left : Suspension Act ε α) : left.Aside (· = ·) left := by
  induction left with
  | ended value => exact .ended rfl
  | paused leg rest ih => exact .paused (.same leg) ih

theorem Suspension.Aside.of_ended {agree : α → β → Prop} {value : α} {left' : Suspension Act ε β}
    (both : (Suspension.ended value).Aside agree left')
    : ∃ value', left' = .ended value' ∧ agree value value' := by
  cases both with
  | ended same => exact ⟨_, rfl, same⟩

theorem Suspension.Aside.of_paused {agree : α → β → Prop} {leg : Run Act ε Unit}
    {rest : ε → Suspension Act ε α} {left' : Suspension Act ε β}
    (both : (Suspension.paused leg rest).Aside agree left')
    : ∃ leg' rest',
        left' = .paused leg' rest'
        ∧ leg.Aside (· = ·) leg'
        ∧ ∀ state, (rest state).Aside agree (rest' state) := by
  cases both with
  | paused legs rests => exact ⟨_, _, rfl, legs, rests⟩

namespace Async.Aside

theorem pure {agree : α → β → Prop} {value : α} {value' : β} (both : agree value value')
    : Async.Aside agree (pure value : Async Act ε α) (pure value') :=
  Run.Aside.pure (.ended both)

/-- Runs in two parts look the same if both parts do. -/
theorem bind {agree : α → β → Prop} {agree' : γ → δ → Prop} {first : Async Act ε α}
    {first' : Async Act ε β} {next : α → Async Act ε γ} {next' : β → Async Act ε δ}
    (before : first.Aside agree first')
    (after : ∀ value value', agree value value' → (next value).Aside agree' (next' value'))
    : (first >>= next).Aside agree' (first' >>= next') :=
  Run.Aside.bind before fun _ _ left => left.andThen after

theorem refl (async : Async Act ε α) : async.Aside (· = ·) async :=
  fun _ => ⟨.refl _, rfl, rfl⟩

/-- Runs that begin as one look the same if they go on so. -/
theorem bindSame {agree : γ → δ → Prop} (first : Async Act ε α) {next : α → Async Act ε γ}
    {next' : α → Async Act ε δ} (after : ∀ value, (next value).Aside agree (next' value))
    : (first >>= next).Aside agree (first >>= next') :=
  (refl first).bind fun value _ same => same ▸ after value

theorem ofRun {agree : α → β → Prop} {run : Run Act ε α} {run' : Run Act ε β}
    (both : run.Aside agree run')
    : (Async.ofRun run).Aside agree (Async.ofRun run') := by
  unfold Async.Aside
  rw [turn_ofRun, turn_ofRun, map_eq_pure_bind, map_eq_pure_bind]
  exact both.bind fun _ _ same => .pure (.ended same)

theorem alone {agree : α → β → Prop} {async : Async Act ε α} {async' : Async Act ε β}
    (both : async.Aside agree async')
    : async.alone.Aside agree async'.alone :=
  Run.Aside.bind both fun _ _ left => left.finish

end Async.Aside

/-- Two units of one name that look the same. -/
structure UnitOfWork.Aside (unit unit' : UnitOfWork ε) : Prop where
  name : unit.name = unit'.name
  work : unit.work.Aside Outcome.Aside unit'.work

/-- A unit looks like itself: what comes of it is the same. -/
theorem UnitOfWork.Aside.refl (unit : UnitOfWork ε) : unit.Aside unit := by
  have same
    : (unit.work >>= fun outcome => Pure.pure outcome).Aside Outcome.Aside
        (unit.work >>= fun outcome => Pure.pure outcome) :=
    .bindSame unit.work fun outcome => .pure (.same outcome)
  simp only [bind_pure] at same
  exact ⟨rfl, same⟩

theorem UnitOfWork.Aside.run {unit unit' : UnitOfWork ε} (both : unit.Aside unit')
    : unit.run.Aside Outcome.Aside unit'.run :=
  both.work.alone

theorem UnitOfWork.Aside.names {units units' : List (UnitOfWork ε)}
    (both : List.Forall₂ UnitOfWork.Aside units units')
    : units.map UnitOfWork.name = units'.map UnitOfWork.name := by
  induction both with
  | nil => rfl
  | cons first _ ih => rw [List.map_cons, List.map_cons, first.name, ih]

-----------------------------------------------------------------------------------------
-- Turns
-----------------------------------------------------------------------------------------

/-- What has come of two rows of units is the same, reasons aside. -/
structure Progress.Aside (progress progress' : Progress) : Prop where
  outcomes
    : List.Forall₂ (fun entry entry' => entry.1 = entry'.1 ∧ entry.2.Aside entry'.2)
        progress.outcomes progress'.outcomes
  cancelled : progress.cancelled = progress'.cancelled

theorem Progress.Aside.record {progress progress' : Progress} (both : progress.Aside progress')
    (place turn : Nat) {outcome outcome' : Outcome} (same : outcome.Aside outcome')
    : (progress.record place turn outcome).Aside (progress'.record place turn outcome') where
  outcomes := List.rel_append both.outcomes (.cons ⟨rfl, same⟩ .nil)
  cancelled := by rw [Progress.record, Progress.record, both.cancelled, same.cancellation?]

theorem Progress.Aside.allows {progress progress' : Progress} (both : progress.Aside progress')
    (turn : Nat)
    : progress.allows turn = progress'.allows turn := by
  rw [Progress.allows, Progress.allows, both.cancelled]

/-- Two waiting units that look the same, at one place and with the same turns before them. -/
structure Waiting.Aside (waiting waiting' : Waiting ε) : Prop where
  place : waiting.place = waiting'.place
  turns : waiting.turns = waiting'.turns
  leg : waiting.leg.Aside (· = ·) waiting'.leg
  rest : ∀ state, (waiting.rest state).Aside Outcome.Aside (waiting'.rest state)

/-- Of rows that are related, related units are taken out, and the others stay related. -/
theorem takeOut_forall₂ {R : α → β → Prop} (n : Nat) {first : α} {first' : β} {rest : List α}
    {rest' : List β} (head : R first first') (tail : List.Forall₂ R rest rest')
    : R (takeOut n first rest).1 (takeOut n first' rest').1
      ∧ List.Forall₂ R (takeOut n first rest).2 (takeOut n first' rest').2 := by
  induction n generalizing first first' rest rest' with
  | zero => exact ⟨head, tail⟩
  | succ n ih =>
      cases tail with
      | nil => exact ⟨head, .nil⟩
      | cons next others =>
          obtain ⟨chosen, left⟩ := ih next others
          exact ⟨chosen, .cons head left⟩

/-- The picks from rows that are related are related, and so is what they leave. -/
theorem takeOut_row {R : α → β → Prop} (pick : Nat) {first : α} {rest : List α} {row' : List β}
    (row : List.Forall₂ R (first :: rest) row')
    : ∃ first' rest' picked,
        row' = first' :: rest'
        ∧ takeOut (pick % (rest'.length + 1)) first' rest' = picked
        ∧ R (takeOut (pick % (rest.length + 1)) first rest).1 picked.1
        ∧ List.Forall₂ R (takeOut (pick % (rest.length + 1)) first rest).2 picked.2 := by
  cases row with
  | @cons _ first' _ rest' head tail =>
      refine ⟨first', rest', _, rfl, rfl, ?_⟩
      rw [← tail.length_eq]
      exact takeOut_forall₂ _ head tail

/-- Waiting units that look the same take turns that look the same, by induction on the turns. -/
theorem takeTurns_aside (schedule : Schedule) (count : Nat) (progress progress' : Progress)
    (waiting waiting' : List (Waiting ε)) (both : progress.Aside progress')
    (row : List.Forall₂ Waiting.Aside waiting waiting')
    : (takeTurns schedule count progress waiting).Aside Progress.Aside
        (takeTurns schedule count progress' waiting') := by
  induction count, progress, waiting using turns_induction schedule
    generalizing progress' waiting' with
  | none count progress =>
      cases row
      rw [takeTurns_nil, takeTurns_nil]
      exact .pure both
  | next count progress first rest picked turn dropped again =>
      obtain ⟨first', rest', picked', rfl, taken, chosen, others⟩ := takeOut_row _ row
      have allows : progress'.allows (picked'.1.turns + 1) = progress.allows turn := by
        rw [← both.allows, ← chosen.turns]
      cases allowed : progress.allows turn with
      | false =>
          rw [takeTurns_passOver rfl allowed, takeTurns_passOver taken (allows.trans allowed)]
          exact dropped progress progress' picked'.2 both others
      | true =>
          intro state
          have next := chosen.rest state
          have gone := chosen.leg state
          cases left : picked.1.rest state with
          | ended outcome =>
              obtain ⟨outcome', left', same⟩ := (left ▸ next).of_ended
              rw [takeTurns_ended rfl allowed left,
                takeTurns_ended taken (allows.trans allowed) left', ← gone.state, ← chosen.place,
                ← chosen.turns]
              exact (dropped _ _ _ (both.record _ _ same) others _).behind gone.messages
          | paused leg later =>
              obtain ⟨leg', later', left', legs, rests⟩ := (left ▸ next).of_paused
              rw [takeTurns_paused rfl allowed left,
                takeTurns_paused taken (allows.trans allowed) left', ← gone.state, ← chosen.place,
                ← chosen.turns]
              refine (again state leg later left _ _ both ?_ _).behind gone.messages
              exact List.rel_append others (.cons ⟨rfl, rfl, legs, rests⟩ .nil)

/-- Units that look the same start alike, and leave units waiting that look the same, by induction
on the units.
-/
theorem startAll_aside {units units' : List (UnitOfWork ε)}
    (row : List.Forall₂ UnitOfWork.Aside units units') (place : Nat) {progress progress' : Progress}
    (both : progress.Aside progress')
    : (startAll place progress units).Aside
        (fun started started' =>
          started.1.Aside started'.1 ∧ List.Forall₂ Waiting.Aside started.2 started'.2)
        (startAll place progress' units') := by
  induction row generalizing place progress progress' with
  | nil => exact .pure ⟨both, .nil⟩
  | cons first _ ih =>
      refine Run.Aside.bind first.work fun left left' suspended => ?_
      cases suspended with
      | ended same => exact ih _ (both.record _ _ same)
      | paused legs rests =>
          exact (ih _ both).bind fun started started' later =>
            .pure ⟨later.1, .cons ⟨rfl, rfl, legs, rests⟩ later.2⟩

/-- Units that look the same run together alike. -/
theorem runTogether_aside (schedule : Schedule) {units units' : List (UnitOfWork ε)}
    (row : List.Forall₂ UnitOfWork.Aside units units')
    : (runTogether schedule units).Aside Progress.Aside (runTogether schedule units') :=
  (startAll_aside row 0 ⟨.nil, rfl⟩).bind fun _ _ started =>
    takeTurns_aside schedule 0 _ _ _ _ started.1 started.2

-----------------------------------------------------------------------------------------
-- Attempts
-----------------------------------------------------------------------------------------

/-- Two results that are both errors or both values, and agree as such. -/
inductive ResultsAgree (errors : α → β → Prop) (values : γ → δ → Prop)
    : Except α γ → Except β δ → Prop where
  | error {error : α} {error' : β} (both : errors error error')
    : ResultsAgree errors values (.error error) (.error error')
  | ok {value : γ} {value' : δ} (both : values value value')
    : ResultsAgree errors values (.ok value) (.ok value')

/-- From every state, two attempts look the same; if they break off, then with the same fault. -/
def Attempt.Aside (agree : α → β → Prop) (attempt : Attempt ε α) (attempt' : Attempt ε β) : Prop :=
  Run.Aside (ResultsAgree (· = ·) agree) attempt.run attempt'.run

namespace Attempt.Aside

theorem pure {agree : α → β → Prop} {value : α} {value' : β} (both : agree value value')
    : Attempt.Aside agree (pure value : Attempt ε α) (pure value') :=
  fun _ => ⟨.ok both, rfl, rfl⟩

theorem throw (agree : α → β → Prop) (fault : Fault)
    : Attempt.Aside agree (throw fault : Attempt ε α) (throw fault) :=
  fun _ => ⟨.error rfl, rfl, rfl⟩

theorem refl (attempt : Attempt ε α) : attempt.Aside (· = ·) attempt := by
  intro state
  refine ⟨?_, rfl, rfl⟩
  cases (Run.trace attempt.run state).value with
  | error fault => exact .error rfl
  | ok value => exact .ok rfl

/-- Attempts in two parts look the same if the parts do, by cases on whether the first breaks off.
-/
theorem bind {agree : α → β → Prop} {agree' : γ → δ → Prop} {first : Attempt ε α}
    {first' : Attempt ε β} {next : α → Attempt ε γ} {next' : β → Attempt ε δ}
    (before : first.Aside agree first')
    (after : ∀ value value', agree value value' → (next value).Aside agree' (next' value'))
    : (first >>= next).Aside agree' (first' >>= next') := by
  unfold Attempt.Aside at *
  rw [ExceptT.run_bind, ExceptT.run_bind]
  refine before.bind fun result result' both => ?_
  cases both with
  | error both =>
      cases both
      exact .pure (.error rfl)
  | ok both => exact after _ _ both

/-- Attempts that begin as one look the same if they go on so. -/
theorem bindSame {agree : γ → δ → Prop} (first : Attempt ε α) {next : α → Attempt ε γ}
    {next' : α → Attempt ε δ} (after : ∀ value, (next value).Aside agree (next' value))
    : (first >>= next).Aside agree (first >>= next') :=
  (refl first).bind fun value _ same => same ▸ after value

theorem liftM {agree : α → β → Prop} {run : Run Act ε α} {run' : Run Act ε β}
    (both : run.Aside agree run')
    : (liftM run : Attempt ε α).Aside agree (liftM run' : Attempt ε β) :=
  both.bind fun _ _ same => .pure (.ok same)

end Attempt.Aside

-----------------------------------------------------------------------------------------
-- Groups
-----------------------------------------------------------------------------------------

/-- Units that look the same are settled alike, by cases on whether they are cancelled. -/
theorem settle_aside {unit unit' : UnitOfWork ε} (both : unit.Aside unit')
    : (settle unit).Aside (Option.Rel UnitFailure.Aside) (settle unit') := by
  unfold settle
  refine (Attempt.Aside.liftM both.run).bind fun outcome outcome' same => ?_
  rw [← same.cancellation?, ← both.name]
  cases outcome.cancellation? with
  | some text => exact .throw _ _
  | none => exact .pure (same.failure? _)

/-- Outcomes that are the same, reasons aside, are looked up as the same, by induction on them. -/
theorem lookup_aside {ended ended' : List (Nat × Outcome)}
    (both
      : List.Forall₂ (fun entry entry' => entry.1 = entry'.1 ∧ entry.2.Aside entry'.2) ended ended')
    (place : Nat)
    : Option.Rel Outcome.Aside (ended.lookup place) (ended'.lookup place) := by
  induction both with
  | nil => exact .none
  | @cons entry entry' rest rest' first _ ih =>
      obtain ⟨here, outcome⟩ := entry
      obtain ⟨here', outcome'⟩ := entry'
      obtain ⟨rfl, same⟩ := first
      cases found : place == here with
      | true =>
          simp only [List.lookup_cons, found]
          exact .some same
      | false =>
          simp only [List.lookup_cons, found]
          exact ih

/-- Two failures of groups that are the same, reasons aside. -/
structure Aggregate.Aside (group group' : Aggregate) : Prop where
  first : group.first.Aside group'.first
  failures : List.Forall₂ UnitFailure.Aside group.failures group'.failures

namespace Group

/-- The failures of groups are the same, reasons aside, if the outcomes are. -/
theorem failures_aside {units units' : List (UnitOfWork ε)}
    (names : units.map UnitOfWork.name = units'.map UnitOfWork.name) {progress progress' : Progress}
    (both : progress.Aside progress')
    : List.Forall₂ UnitFailure.Aside (failures units progress.outcomes)
        (failures units' progress'.outcomes) := by
  rw [failures_eq, failures_eq, ← names]
  refine List.rel_filterMap (R := (· = ·)) ?_ (List.forall₂_same.mpr fun _ _ => rfl)
  rintro entry _ rfl
  have found := lookup_aside both.outcomes entry.2
  dsimp only
  generalize progress.outcomes.lookup entry.2 = outcome at found ⊢
  generalize progress'.outcomes.lookup entry.2 = outcome' at found ⊢
  cases found with
  | none => exact .none
  | some same => exact same.failure? entry.1

/-- Failures that are the same, reasons aside, come to the same verdict, reasons aside. -/
theorem verdict_aside {failures failures' : List UnitFailure}
    (both : List.Forall₂ UnitFailure.Aside failures failures')
    : ResultsAgree Aggregate.Aside (· = ·) (verdict failures) (verdict failures') := by
  cases both with
  | nil => exact .ok rfl
  | cons first others => exact .error ⟨first, .cons first others⟩

/-- The closing messages of a group hold no reasons of failures with exit codes. -/
theorem closing_aside (count : Nat) {failures failures' : List UnitFailure}
    (both : List.Forall₂ UnitFailure.Aside failures failures')
    : closing count failures = closing count failures' := by
  have warnings := UnitFailure.Aside.map both fun same => congrArg Message.warning same.message
  have empty : failures.isEmpty = failures'.isEmpty := by cases both <;> rfl
  rw [closing, closing, warnings, empty, both.length_eq]

/-- Groups of units that look the same look the same, and come to the same, reasons aside. -/
theorem runAll_aside (schedule : Schedule) {units units' : List (UnitOfWork ε)}
    (row : List.Forall₂ UnitOfWork.Aside units units')
    : (runAll schedule units).Aside (ResultsAgree Aggregate.Aside (· = ·))
        (runAll schedule units') := by
  have names := UnitOfWork.Aside.names row
  have opened : opening units = opening units' := by rw [opening, opening, names, row.length_eq]
  have empty : units.isEmpty = units'.isEmpty := by cases row <;> rfl
  unfold runAll
  rw [empty, opened, row.length_eq]
  split
  · exact .pure (.ok rfl)
  refine .bindSame _ fun _ => ?_
  have together := Attempt.Aside.liftM (runTogether_aside schedule row)
  refine together.bind fun progress progress' both => ?_
  rw [← both.cancelled]
  split
  · exact .throw _ _
  · have failed := failures_aside names both
    dsimp only
    rw [closing_aside _ failed]
    exact .bindSame _ fun _ => .pure (verdict_aside failed)

/-- Units that look the same do so in sequence, by induction on them. -/
theorem runFrom_aside (count before : Nat) {units units' : List (UnitOfWork ε)}
    (row : List.Forall₂ UnitOfWork.Aside units units')
    : (runFrom count before units).Aside (ResultsAgree UnitFailure.Aside (· = ·))
        (runFrom count before units') := by
  induction row generalizing before with
  | nil => exact .pure (.ok rfl)
  | @cons unit unit' rest rest' first others ih =>
      have empty : rest.isEmpty = rest'.isEmpty := by cases others <;> rfl
      unfold runFrom
      rw [first.name, empty, others.length_eq]
      refine .bindSame _ fun _ => (settle_aside first).bind fun settled settled' both => ?_
      cases both with
      | none => exact ih _
      | some both =>
          dsimp only
          rw [both.job]
          split
          · exact .bindSame _ fun _ => .pure (.error both)
          · exact .pure (.error both)

/-- Units that look the same do so one after the other. -/
theorem runEach_aside {units units' : List (UnitOfWork ε)}
    (row : List.Forall₂ UnitOfWork.Aside units units')
    : (runEach units).Aside (ResultsAgree UnitFailure.Aside (· = ·)) (runEach units') := by
  rw [runEach, runEach, row.length_eq]
  exact runFrom_aside _ 0 row

end Group

end Conductor
