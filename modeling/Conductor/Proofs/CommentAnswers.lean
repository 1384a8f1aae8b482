import Conductor.Proofs.CommentGate
import Conductor.Proofs.SuiteAnswers

/-! How comments are answered. The association of an author may be any value; it is looked up among
those trusted only behind the trigger, and a list or a table cannot be looked up.
-/

namespace Conductor.Handlers

variable {ε : Type}

/-- A payload holds a comment whose text is the trigger but for blanks around it, and whose author
has this association with the project, null if none is given.
-/
def Triggers (platform : Platform) (config : Config) (payload : Bytes)
    (association : Value Text) : Prop :=
  ∃ table body comment text,
    Json.readTableBytes platform.jsonDepth payload = .ok (some table)
    ∧ Table.get? table (Text.ofString "body") = some (.table body)
    ∧ Table.get? body (Text.ofString "comment") = some (.table comment)
    ∧ Table.get? comment (Text.ofString "body") = some (.str text)
    ∧ Text.stripUnits text = Text.ofString config.commentTrigger
    ∧ (Table.get? comment (Text.ofString "author_association")).getD .null = association

/-- A payload that is read holds at most one association of an author behind the trigger. -/
theorem Triggers.unique {platform : Platform} {config : Config} {payload : Bytes}
    {first second : Value Text} (triggers : Triggers platform config payload first)
    (others : Triggers platform config payload second)
    : first = second := by
  obtain ⟨table, body, comment, text, read, inBody, inComment, _, _, rfl⟩ := triggers
  obtain ⟨table', body', comment', text', read', inBody', inComment', _, _, rfl⟩ := others
  cases read.symm.trans read'
  cases inBody.symm.trans inBody'
  cases inComment.symm.trans inComment'
  rfl

/-- The fields of one comment are found in its table. -/
theorem commentField_eq {payload body comment : Table Text}
    (inBody : Table.get? payload (Text.ofString "body") = some (.table body))
    (inComment : Table.get? body (Text.ofString "comment") = some (.table comment))
    (name : String)
    : commentField payload name = (Table.get? comment (Text.ofString name)).getD .null := by
  simp only [commentField, List.map_cons, List.map_nil, Value.atPath?, inBody, inComment]
  cases Table.get? comment (Text.ofString name) <;> rfl

section Verdict

variable {platform : Platform} {config : Config} {event : Event}

/-- Behind the trigger the verdict is that on the association. -/
theorem Triggers.verdict_eq {association : Value Text}
    (triggers : Triggers platform config event.payload association)
    : verdict platform config event
      = (isTrusted association).map fun trusted =>
          if trusted then .accepted else .untrusted association := by
  obtain ⟨table, body, comment, text, read, inBody, inComment, written, asks, rfl⟩ := triggers
  have spoken : commentField table "body" = .str text := by
    rw [commentField_eq inBody inComment, written]
    rfl
  rw [verdict, read]
  simp only [Option.getD_some, judge, spoken, asks, beq_self_eq_true, if_true,
    commentField_eq inBody inComment]
  cases isTrusted ((Table.get? comment (Text.ofString "author_association")).getD .null) with
  | error fault => rfl
  | ok trusted => cases trusted <;> rfl

/-- A payload that is read without the trigger is unrelated. -/
theorem verdict_unrelated {table? : Option (Table Text)}
    (read : Json.readTableBytes platform.jsonDepth event.payload = .ok table?)
    (silent : ∀ association, ¬Triggers platform config event.payload association)
    : verdict platform config event = .ok .unrelated := by
  rw [verdict, read]
  simp only
  unfold judge
  split
  · rename_i text spoken
    split
    · rename_i asks
      exfalso
      obtain ⟨body, comment, inBody, inComment, written⟩ := commentField_eq_str_iff.mp spoken
      cases table? with
      | none => cases inBody
      | some table =>
          exact silent _ ⟨table, body, comment, text, read, inBody, inComment, written,
            beq_iff_eq.mp asks, rfl⟩
    · rfl
  · rfl

end Verdict

-----------------------------------------------------------------------------------------
-- Answers
-----------------------------------------------------------------------------------------

/-- What is said of a comment without the trigger. -/
def passedOver : Message :=
  .dim "comment does not request a build; ignoring"

/-- What is said of a comment whose author may not ask for builds. -/
def declined (association : Value Text) : Message :=
  .info ("comment author association " ++ association.shownUnits ++ " may not trigger builds")

/-- A comment is answered with one message and nothing else. -/
def Tells (message : Message) (state : ε) (trace : Trace Act ε (Except Fault (Except Failure Unit)))
    : Prop :=
  trace = ⟨.ok (.ok ()), state, [.did (.wrote message)]⟩

/-- What a comment with the trigger comes to, by the association of its author: the suite if it is
trusted, a message if it is another text or no text, and a fault if it is a list or a table.
-/
def Meets (services : Services ε) (event : Event) (project : Project) (state : ε)
    (trace : Trace Act ε (Except Fault (Except Failure Unit)))
    : Value Text → Prop
  | .list _ => trace = ⟨.error (.unhashable false), state, []⟩
  | .table _ => trace = ⟨.error (.unhashable true), state, []⟩
  | .str name =>
    if ∃ known ∈ ["OWNER", "MEMBER", "COLLABORATOR"], name = Text.ofString known then
      trace = (checkSuite services event project).trace state
      ∧ ∃ result, trace.value = .ok result
    else Tells (declined (.str name)) state trace
  | association => Tells (declined association) state trace

section Comment

variable {services : Services ε} {event : Event} (project : Project) (state : ε)

/-- A verdict other than the acceptance of a comment is answered with one message, or breaks off. -/
theorem issueComment_of_verdict
    : (verdict services.platform services.config event = .ok .unrelated
        → Tells passedOver state ((issueComment services event project).trace state))
      ∧ (∀ association,
          verdict services.platform services.config event = .ok (.untrusted association)
          → Tells (declined association) state ((issueComment services event project).trace state))
      ∧ ∀ fault,
          verdict services.platform services.config event = .error fault
          → (issueComment services event project).trace state = ⟨.error fault, state, []⟩ := by
  refine ⟨fun judged => ?_, fun association judged => ?_, fun fault judged => ?_⟩
  all_goals unfold issueComment
  · rw [judged, Attempt.trace_bind_ok (Attempt.trace_liftExcept _ state)]
    rfl
  · rw [judged, Attempt.trace_bind_ok (Attempt.trace_liftExcept _ state)]
    rfl
  · rw [judged]
    exact Attempt.trace_bind_error (Attempt.trace_liftExcept _ state)

/-- A comment that is accepted comes to a result if the address of the build is shown. -/
theorem checkSuite_value (executing : services.executor.Uncancelled)
    (reporting : services.reporter.Uncancelled) {detailsUrl : String}
    (shown : services.detailsUrl event.buildId = .ok detailsUrl)
    : ∃ result, ((checkSuite services event project).trace state).value = .ok result := by
  obtain ⟨result, value⟩ := Suite.run_value executing reporting event project state shown
  refine ⟨result.mapError Failure.group, ?_⟩
  unfold checkSuite
  rw [ofGroup_trace]
  simp only [value]
  rfl

/-- A comment with the trigger comes to what the association of its author does, by cases on its
shape.
-/
theorem Triggers.meets (executing : services.executor.Uncancelled)
    (reporting : services.reporter.Uncancelled) {detailsUrl : String}
    (shown : services.detailsUrl event.buildId = .ok detailsUrl) {association : Value Text}
    (triggers : Triggers services.platform services.config event.payload association)
    : Meets services event project state ((issueComment services event project).trace state)
        association := by
  obtain ⟨_, untrusted, breaks⟩ := @issueComment_of_verdict _ services event project state
  have judged := triggers.verdict_eq
  cases association with
  | list items => exact breaks _ judged
  | table entries => exact breaks _ judged
  | str name =>
      have trust
        : (trusted.any fun known => Text.ofString known == name)
          ↔ ∃ known ∈ ["OWNER", "MEMBER", "COLLABORATOR"], name = Text.ofString known := by
        rw [List.any_eq_true]
        exact exists_congr fun known => and_congr_right fun _ => beq_iff_eq.trans eq_comm
      by_cases known : ∃ known ∈ ["OWNER", "MEMBER", "COLLABORATOR"], name = Text.ofString known
      · have accepted : verdict services.platform services.config event = .ok .accepted := by
          rw [judged, isTrusted, Except.map, if_pos (trust.mpr known)]
        simp only [Meets, if_pos known]
        rw [issueComment_accepted services event project state accepted]
        exact ⟨rfl, checkSuite_value project state executing reporting shown⟩
      · simp only [Meets, if_neg known]
        apply untrusted
        rw [judged, isTrusted, Except.map, if_neg fun found => known (trust.mp found)]
  | _ => exact untrusted _ judged

end Comment

/-- Comments are answered but for lists and tables. However jobs and reports end, a payload that is
read and holds no comment with the trigger is answered with one message and nothing else. One that
does is answered by the association of its author: with the suite and its result if it is trusted,
with one message and nothing else if it is another text, a number, a constant, or missing, and not
at all if it is a list or a table, which the request breaks off on before it has done anything.
-/
theorem issueComment_answers {services : Services ε} (executing : services.executor.Uncancelled)
    (reporting : services.reporter.Uncancelled) {event : Event} {table? : Option (Table Text)}
    (read : Json.readTableBytes services.platform.jsonDepth event.payload = .ok table?)
    {detailsUrl : String}
    (shown : services.detailsUrl event.buildId = .ok detailsUrl) (project : Project)
    (state : ε)
    : let trace := (issueComment services event project).trace state
      let triggers := Triggers services.platform services.config event.payload
      ((∀ association, ¬triggers association) → Tells passedOver state trace)
      ∧ (∀ association,
          triggers association → Meets services event project state trace association)
      ∧ (∀ first second, triggers first → triggers second → first = second)
      ∧ ((∃ result, trace.value = .ok result)
          ↔ ∀ association,
              triggers association
              → (∀ items, association ≠ .list items)
                ∧ ∀ entries, association ≠ .table entries) := by
  intro trace triggers
  have silent (none : ∀ association, ¬triggers association) : Tells passedOver state trace :=
    (issueComment_of_verdict project state).1 (verdict_unrelated read none)
  have meets (association : Value Text) (triggered : triggers association)
    : Meets services event project state trace association :=
    triggered.meets project state executing reporting shown
  have said {message : Message} (tells : Tells message state trace)
    : ∃ result, trace.value = .ok result :=
    ⟨_, congrArg Trace.value tells⟩
  refine ⟨silent, meets, fun _ _ => Triggers.unique, ?answered, ?answers⟩
  case answered =>
    rintro ⟨result, value⟩ association triggered
    have broken {fault : Fault} (breaks : trace = ⟨.error fault, state, []⟩) : False := by
      rw [breaks] at value
      cases value
    constructor
    · rintro items rfl
      exact broken (meets _ triggered)
    · rintro entries rfl
      exact broken (meets _ triggered)
  case answers =>
    intro plain
    by_cases triggered : ∃ association, triggers association
    · obtain ⟨association, triggered⟩ := triggered
      obtain ⟨list, table⟩ := plain association triggered
      have met := meets association triggered
      cases association with
      | list items => exact absurd rfl (list items)
      | table entries => exact absurd rfl (table entries)
      | str name =>
          by_cases known
            : ∃ known ∈ ["OWNER", "MEMBER", "COLLABORATOR"], name = Text.ofString known
          · simp only [Meets, if_pos known] at met
            exact met.2
          · simp only [Meets, if_neg known] at met
            exact said met
      | _ => exact said met
    · exact said (silent fun association triggered' => triggered ⟨association, triggered'⟩)

/-- An event about a comment with the trigger whose author's association is given as it is written,
in characters of one byte.
-/
def triggerEvent (association : String) : Event where
  kind := "issue_comment:created"
  payload :=
    ("\x7b\"body\":\x7b\"comment\":\x7b\"body\":\"/brig run\",\"author_association\":"
      ++ association ++ "\x7d\x7d\x7d").toList.map fun char => char.toNat.toUInt8

/-- What is read of such an event. -/
def triggerTable (association : Value Text) : Table Text :=
  let comment : Table Text := [
    (Text.ofString "body", .str (Text.ofString "/brig run")),
    (Text.ofString "author_association", association)]
  [(Text.ofString "body", .table [(Text.ofString "comment", .table comment)])]

theorem issueComment_answers_constant
    : let event := triggerEvent "true"
      rehearsal.executor.Uncancelled
      ∧ rehearsal.reporter.Uncancelled
      ∧ (∃ table?, Json.readTableBytes rehearsal.platform.jsonDepth event.payload = .ok table?)
      ∧ (∃ detailsUrl, rehearsal.detailsUrl event.buildId = .ok detailsUrl)
      ∧ Triggers rehearsal.platform rehearsal.config event.payload (.bool true)
      ∧ (issueComment rehearsal event Release.equipped).trace ()
        = ⟨.ok (.ok ()), (),
            [.did (.wrote
              (.info "comment author association True may not trigger builds"))]⟩ := by
  intro event
  have executing : rehearsal.executor.Uncancelled := Executor.dryRun_uncancelled
  have reporting : rehearsal.reporter.Uncancelled := Reporter.console_uncancelled
  have shown : rehearsal.detailsUrl event.buildId = .ok _ :=
    Config.detailsUrl_default rfl event.buildId
  have read
    : Json.readTableBytes rehearsal.platform.jsonDepth event.payload
      = .ok (some (triggerTable (.bool true))) := by
    rfl
  have triggers : Triggers rehearsal.platform rehearsal.config event.payload (.bool true) :=
    ⟨triggerTable (.bool true), _, _, _, read, rfl, rfl, rfl, rfl, rfl⟩
  obtain ⟨_, meets, _⟩ :=
    issueComment_answers executing reporting read shown Release.equipped ()
  exact ⟨executing, reporting, ⟨_, read⟩, ⟨_, shown⟩, triggers, meets _ triggers⟩

/-- A comment with the trigger whose author's association is an empty list breaks the request off,
although its payload is read and the address of the build is shown.
-/
theorem issueComment_unanswered
    : let event := triggerEvent "[]"
      (∃ table?, Json.readTableBytes rehearsal.platform.jsonDepth event.payload = .ok table?)
      ∧ (∃ detailsUrl, rehearsal.detailsUrl event.buildId = .ok detailsUrl)
      ∧ (issueComment rehearsal event Release.equipped).trace ()
        = ⟨.error (.unhashable false), (), []⟩ := by
  intro event
  have read
    : Json.readTableBytes rehearsal.platform.jsonDepth event.payload
      = .ok (some (triggerTable (.list []))) := by
    rfl
  have shown : rehearsal.detailsUrl event.buildId = .ok _ :=
    Config.detailsUrl_default rfl event.buildId
  have judged : verdict rehearsal.platform rehearsal.config event = .error (.unhashable false) := by
    rfl
  exact ⟨⟨_, read⟩, ⟨_, shown⟩, (issueComment_of_verdict Release.equipped ()).2.2 _ judged⟩

end Conductor.Handlers
