import Conductor.Proofs.ReleaseSafety

/-! Comments that ask for builds. A comment starts the suite only if it is the trigger, from an
author who is trusted; then the jobs of the suite start once each, in order, whatever becomes of
them. Any other payload starts nothing and reports nothing, also if it breaks the request off.
-/

namespace Conductor

variable {ε : Type}

-----------------------------------------------------------------------------------------
-- Jobs that a suite starts
-----------------------------------------------------------------------------------------

/-- A group of checks of jobs starts these in order. -/
theorem Group.runAll_checks_starts (schedule : Schedule) (reporter : Reporter ε)
    (executor : Executor ε) {check : JobSpec → Check ε}
    (job : ∀ spec, (check spec).job = spec.unit executor) (specs : List JobSpec) (state : ε)
    : ((runAll schedule (specs.map fun spec => (check spec).unit reporter)).trace
        state).acts.filterMap Act.start?
      = specs := by
  rw [runAll_view (fun _ => rfl) (fun spec => Check.unit_shows_start reporter (job spec)) schedule
    specs
    state]
  exact List.flatMap_singleton' specs

namespace Suite

/-- The checks of jobs start these in order, if the address of the build can be shown. -/
theorem runChecks_starts (services : Services ε) (specs : List JobSpec) (event : Event)
    (project : Project) (state : ε) {detailsUrl : String}
    (shown : services.detailsUrl event.buildId = .ok detailsUrl)
    : ((runChecks services (specs.map (Factory.ofJob services)) event project).trace
        state).acts.filterMap Act.start?
      = specs := by
  rw [runChecks_trace services specs event project state shown, Trace.behind_acts,
    List.filterMap_append, Factory.built_starts, List.nil_append]
  exact Group.runAll_checks_starts services.schedule services.reporter services.executor
    (fun _ => rfl) specs state

/-- Publishing the images of the mainline starts one job, whatever comes of it. -/
theorem publishEdge_starts (services : Services ε) (project : Project) (state : ε)
    : ((publishEdge services project).trace state).acts.filterMap Act.start?
      = [Catalog.publishImages services.config project ""] := by
  let images := Catalog.publishImages services.config project ""
  have blind : ∀ deed, Act.start? (.did deed) = none := fun _ => rfl
  have settling
    : ((settle (services.unit images)).trace state).acts.filterMap Act.start? = [images] := by
    rw [settle_acts, Services.unit, JobSpec.unit_run_starts]
  simp only [publishEdge, Attempt.trace_write_bind, Trace.behind_acts, List.filterMap_append,
    Act.filterMap_wrote blind, List.nil_append]
  rcases ended : (settle (services.unit images)).trace state with
    ⟨fault | _ | failure, later, acts⟩
  all_goals rw [ended] at settling
  · rw [Attempt.trace_bind_error ended, settling]
  · rw [Attempt.trace_bind_ok ended, Trace.behind_acts, List.filterMap_append, settling]
    rfl
  · rw [Attempt.trace_bind_ok ended, Trace.behind_acts, List.filterMap_append, settling]
    rfl

/-- Behind checks that pass, the job that publishes images is started on the mainline alone. -/
theorem edge_starts (services : Services ε) (event : Event) (project : Project) (state : ε)
    : ((edge services event project).trace state).acts.filterMap Act.start?
      = if isMainline services.config event then
          [Catalog.publishImages services.config project ""]
        else [] := by
  unfold edge
  split
  · exact publishEdge_starts services project state
  · rfl

/-- A suite starts its jobs in order, whatever comes of them, if the address of the build can be
shown; and behind them on the mainline that which publishes images, if its checks pass.
-/
theorem run_starts_eq (services : Services ε) (event : Event) (project : Project) (state : ε)
    {detailsUrl : String}
    (shown : services.detailsUrl event.buildId = .ok detailsUrl)
    : ((run services event project).trace state).acts.filterMap Act.start?
      = Catalog.suite services.config
        ++ if ((runChecks services (factories services) event project).trace state).value
              = .ok (.ok ()) ∧ isMainline services.config event = true then
            [Catalog.publishImages services.config project ""]
          else [] := by
  have checks
    : ((runChecks services (factories services) event project).trace state).acts.filterMap
        Act.start?
      = Catalog.suite services.config :=
    runChecks_starts services (Catalog.suite services.config) event project state shown
  have blind : ∀ deed, Act.start? (.did deed) = none := fun _ => rfl
  obtain ⟨heading, whole⟩ := run_trace services event project state
  rw [whole, Trace.behind_acts, List.filterMap_append,
    List.filterMap_cons_none (blind (.wrote heading)), List.filterMap_nil, List.nil_append]
  rcases ended : (runChecks services (factories services) event project).trace state with
    ⟨fault | failure | ⟨⟩, later, acts⟩
  all_goals rw [ended] at checks; simp only [behindChecks]
  · simp [checks]
  · simp [checks]
  · simp [checks, edge_starts]

/-- A suite starts its jobs in order, whatever comes of them, and no other job but that which
publishes images, if the address of the build can be shown.
-/
theorem run_starts (services : Services ε) (event : Event) (project : Project) (state : ε)
    {detailsUrl : String}
    (shown : services.detailsUrl event.buildId = .ok detailsUrl)
    : ∃ more ∈ [[], [Catalog.publishImages services.config project ""]],
        ((run services event project).trace state).acts.filterMap Act.start?
        = Catalog.suite services.config ++ more := by
  rw [run_starts_eq services event project state shown]
  refine ⟨_, ?_, rfl⟩
  split <;> simp

/-- If the address of the build cannot be shown, a suite starts nothing and reports nothing. -/
theorem run_refused (services : Services ε) (event : Event) (project : Project) (state : ε)
    {refusal : Template.Refusal}
    (shown : services.detailsUrl event.buildId = .error refusal)
    : ∃ message : Message,
        (run services event project).trace state
        = ⟨.error (.template refusal), state, [.did (.wrote message)]⟩ := by
  obtain ⟨heading, whole⟩ := run_trace services event project state
  rw [runChecks_refused services (factories services) event project state shown] at whole
  exact ⟨heading, whole⟩

end Suite

-----------------------------------------------------------------------------------------
-- Comments
-----------------------------------------------------------------------------------------

/-- A path leads from a table through the value under its first key. -/
theorem Value.atPath?_cons_eq_some_iff {value found : Value Text} {key : Text} {rest : List Text}
    : value.atPath? (key :: rest) = some found
      ↔ ∃ entries inner,
          value = .table entries
          ∧ Table.get? entries key = some inner
          ∧ inner.atPath? rest = some found := by
  cases value with
  | table entries =>
      simp only [Value.atPath?]
      cases looked : Table.get? entries key <;> simp [looked]
  | _ => simp [Value.atPath?]

namespace Handlers

/-- A payload asks for a build: it is read as a table, in which the text of the comment is the
trigger but for blanks around it, and the author of the comment is associated with the project.
-/
def AsksForBuild (platform : Platform) (config : Config) (payload : Bytes) : Prop :=
  ∃ table body comment text association,
    Json.readTableBytes platform.jsonDepth payload = .ok (some table)
    ∧ Table.get? table (Text.ofString "body") = some (.table body)
    ∧ Table.get? body (Text.ofString "comment") = some (.table comment)
    ∧ Table.get? comment (Text.ofString "body") = some (.str text)
    ∧ Text.stripUnits text = Text.ofString config.commentTrigger
    ∧ Table.get? comment (Text.ofString "author_association")
      = some (.str (Text.ofString association))
    ∧ association ∈ ["OWNER", "MEMBER", "COLLABORATOR"]

theorem commentField_eq_str_iff {payload : Table Text} {name : String} {text : Text}
    : commentField payload name = .str text
      ↔ ∃ body comment,
          Table.get? payload (Text.ofString "body") = some (.table body)
          ∧ Table.get? body (Text.ofString "comment") = some (.table comment)
          ∧ Table.get? comment (Text.ofString name) = some (.str text) := by
  have present
    : commentField payload name = .str text
      ↔ (Value.table payload).atPath? (["body", "comment", name].map Text.ofString)
        = some (.str text) := by
    rw [commentField]
    cases (Value.table payload).atPath? (["body", "comment", name].map Text.ofString) <;> simp
  rw [present]
  simp only [List.map_cons, List.map_nil, Value.atPath?_cons_eq_some_iff]
  constructor
  · rintro ⟨_, _, ⟨⟩, inBody, body, _, rfl, inComment, comment, _, rfl, found, ⟨⟩⟩
    exact ⟨body, comment, inBody, inComment, found⟩
  · rintro ⟨body, comment, inBody, inComment, found⟩
    exact ⟨_, _, rfl, inBody, body, _, rfl, inComment, comment, _, rfl, found, rfl⟩

/-- An association is trusted exactly if it is one of three texts, by cases on its shape. -/
theorem isTrusted_iff {association : Value Text}
    : isTrusted association = .ok true
      ↔ ∃ name ∈ ["OWNER", "MEMBER", "COLLABORATOR"], association = .str (Text.ofString name) := by
  cases association with
  | str text =>
      simp only [isTrusted, Except.ok.injEq, List.any_eq_true, beq_iff_eq, Value.str.injEq]
      exact exists_congr fun name => and_congr_right fun _ => eq_comm
  | _ => simp only [isTrusted, reduceCtorEq, Except.ok.injEq, Bool.false_eq_true, and_false,
      exists_false]

/-- A comment is accepted exactly if its text is the trigger and its author is trusted.
Witness: by cases on what is found for the text; the author is looked at only behind the trigger.
-/
theorem judge_accepted_iff {config : Config} {payload : Table Text}
    : judge config payload = .ok .accepted
      ↔ (∃ text,
          commentField payload "body" = .str text
          ∧ Text.stripUnits text = Text.ofString config.commentTrigger)
        ∧ isTrusted (commentField payload "author_association") = .ok true := by
  cases found : commentField payload "body" with
  | str text =>
      by_cases asks : Text.stripUnits text = Text.ofString config.commentTrigger
      · rcases trust : isTrusted (commentField payload "author_association") with fault | _ | _
        all_goals simp [judge, found, asks, trust, bind, Except.bind, pure, Except.pure]
      · simp [judge, found, asks]
  | _ => simp [judge, found]

/-- The comment of an event is accepted exactly if its payload asks for a build.
Witness: a payload that is no table holds no comment, and the fields of a comment are in one table.
-/
theorem verdict_accepted_iff {platform : Platform} {config : Config} {event : Event}
    : verdict platform config event = .ok .accepted
      ↔ AsksForBuild platform config event.payload := by
  unfold verdict AsksForBuild
  rcases read : Json.readTableBytes platform.jsonDepth event.payload with fault | _ | table
  · simp
  · have empty : judge config [] = .ok .unrelated := rfl
    simp [empty]
  · simp only [Option.getD_some, judge_accepted_iff, isTrusted_iff, commentField_eq_str_iff]
    constructor
    · rintro ⟨⟨text, ⟨body, comment, inBody, inComment, written⟩, asks⟩, association, member, found⟩
      obtain ⟨body', comment', inBody', inComment', associated⟩ := found
      cases inBody.symm.trans inBody'
      cases inComment.symm.trans inComment'
      exact ⟨table, body, comment, text, association, rfl, inBody, inComment, written, asks,
        associated, member⟩
    · rintro ⟨_, body, comment, text, association, ⟨⟩, inBody, inComment, written, asks, associated,
        member⟩
      exact ⟨⟨text, ⟨body, comment, inBody, inComment, written⟩, asks⟩, association, member,
        body, comment, inBody, inComment, associated⟩

-----------------------------------------------------------------------------------------
-- What a comment comes to
-----------------------------------------------------------------------------------------

section Comment

variable (services : Services ε) (event : Event) (project : Project) (state : ε)

/-- A comment that is accepted comes to what the suite comes to. -/
theorem issueComment_accepted
    (accepted : verdict services.platform services.config event = .ok .accepted)
    : (issueComment services event project).trace state
      = (checkSuite services event project).trace state := by
  unfold issueComment
  rw [accepted, Attempt.trace_bind_ok (Attempt.trace_liftExcept _ state)]
  rfl

/-- A comment that is not accepted comes to messages alone, by cases on the verdict. -/
theorem issueComment_refused
    (refused : verdict services.platform services.config event ≠ .ok .accepted)
    : let trace := (issueComment services event project).trace state
      trace.state = state
      ∧ ∃ messages : List Message,
          trace.acts = messages.map fun message => .did (.wrote message) := by
  unfold issueComment
  rcases judged : verdict services.platform services.config event with fault | _ | association | _
  · rw [Attempt.trace_bind_error (Attempt.trace_liftExcept _ state)]
    exact ⟨rfl, [], rfl⟩
  · rw [Attempt.trace_bind_ok (Attempt.trace_liftExcept _ state)]
    simp only [Attempt.trace_write_bind]
    exact ⟨rfl, _, List.append_nil _⟩
  · rw [Attempt.trace_bind_ok (Attempt.trace_liftExcept _ state)]
    simp only [Attempt.trace_write_bind]
    exact ⟨rfl, _, List.append_nil _⟩
  · exact absurd judged refused

/-- An event about a comment is handled as such, created or edited. -/
theorem dispatch_comment
    (commented : event.kind ∈ ["issue_comment:created", "issue_comment:edited"])
    : (router services).dispatch event project = issueComment services event project := by
  rcases List.mem_pair.mp commented with created | edited
  · have named : event.kind = EventKind.issueCommentCreated.text := created
    exact router_dispatch services named project
  · have named : event.kind = EventKind.issueCommentEdited.text := edited
    exact router_dispatch services named project

/-- A comment comes to messages alone unless it asks for a build whose address can be shown.
Witness: what does not ask is not accepted, and without the address the suite does not get to its
checks.
-/
theorem issueComment_quiet
    (quiet
      : ¬(AsksForBuild services.platform services.config event.payload
        ∧ ∃ detailsUrl, services.detailsUrl event.buildId = .ok detailsUrl))
    : let trace := (issueComment services event project).trace state
      trace.state = state
      ∧ ∃ messages : List Message,
          trace.acts = messages.map fun message => .did (.wrote message) := by
  by_cases accepted : verdict services.platform services.config event = .ok .accepted
  · rw [issueComment_accepted services event project state accepted]
    cases shown : services.detailsUrl event.buildId with
    | ok detailsUrl => exact absurd ⟨verdict_accepted_iff.mp accepted, detailsUrl, shown⟩ quiet
    | error refusal =>
        obtain ⟨message, trace⟩ := Suite.run_refused services event project state shown
        have grouped := ofGroup_trace (Suite.run services event project) state
        rw [trace] at grouped
        unfold checkSuite
        rw [grouped]
        exact ⟨rfl, [message], rfl⟩
  · exact issueComment_refused services event project state accepted

/-- A comment that asks for a build starts each job of the suite once, if the address of the build
can be shown. Witness: of the jobs that the suite starts, those of its checks go by different names,
and the images by none of these.
-/
theorem issueComment_starts (asks : AsksForBuild services.platform services.config event.payload)
    {detailsUrl : String}
    (shown : services.detailsUrl event.buildId = .ok detailsUrl)
    : ∀ job ∈ Catalog.suite services.config,
        (((issueComment services event project).trace state).acts.filterMap Act.start?).filter
            (fun spec => spec.name == job.name)
          = [job] := by
  have accepted : verdict services.platform services.config event = .ok .accepted :=
    verdict_accepted_iff.mpr asks
  have grouped := ofGroup_trace (Suite.run services event project) state
  obtain ⟨more, member, starts⟩ := Suite.run_starts services event project state shown
  rw [issueComment_accepted services event project state accepted]
  unfold checkSuite
  rw [grouped, starts]
  intro job jobMember
  have once
    : (Catalog.suite services.config).filter (fun spec => spec.name == job.name) = [job] := by
    simpa using filter_named (Suite.suite_different services.config) jobMember id JobSpec.name
      fun _ => rfl
  have other : Catalog.imagesName ≠ job.name := Suite.suite_ne_images services.config job jobMember
  have none : more.filter (fun spec => spec.name == job.name) = [] := by
    rcases List.mem_pair.mp member with rfl | rfl
    · rfl
    · simp [Catalog.publishImages, other]
  rw [List.filter_append, once, none, List.append_nil]

end Comment

/-- A comment is a gate. Whatever its payload, and however jobs and reports end, an event about a
comment starts jobs only if the payload asks for a build; each job of the suite starts once if it
does and the address of the build can be shown; and in all other cases nothing is started, reported
or changed, also if the payload breaks the request off.
-/
theorem dispatch_comment_gated (services : Services ε) (event : Event) (project : Project)
    (state : ε) (commented : event.kind ∈ ["issue_comment:created", "issue_comment:edited"])
    : let config := services.config
      let trace := ((router services).dispatch event project).trace state
      let asks := AsksForBuild services.platform config event.payload
      let shown := ∃ detailsUrl, services.detailsUrl event.buildId = .ok detailsUrl
      (trace.acts.filterMap Act.start? ≠ [] → asks)
      ∧ (asks ∧ shown
        → ∀ job ∈ Catalog.suite config,
            (trace.acts.filterMap Act.start?).filter (fun spec => spec.name == job.name) = [job])
      ∧ (¬(asks ∧ shown)
        → trace.acts.filterMap Act.start? = []
          ∧ trace.acts.filterMap Act.report? = []
          ∧ trace.state = state)
      ∧ (Catalog.suite config).map JobSpec.name = ["test-go", "test-javascript", "test-e2e"] := by
  intro config trace asks shown
  have handled : trace = (issueComment services event project).trace state := by
    rw [← dispatch_comment services event project commented]
  have quiet
    : ¬(asks ∧ shown)
      → trace.acts.filterMap Act.start? = []
        ∧ trace.acts.filterMap Act.report? = []
        ∧ trace.state = state := by
    intro refused
    obtain ⟨kept, messages, acts⟩ := issueComment_quiet services event project state refused
    rw [handled, acts, Act.filterMap_wrote fun _ => rfl, Act.filterMap_wrote fun _ => rfl]
    exact ⟨rfl, rfl, kept⟩
  refine ⟨?starting, ?started, quiet, rfl⟩
  case starting =>
    intro starts
    by_contra refused
    obtain ⟨none, _⟩ := quiet fun both => refused both.1
    exact starts none
  case started =>
    rintro ⟨asking, detailsUrl, found⟩
    rw [handled]
    exact issueComment_starts services event project state asking found

/-- An event about a comment whose author and text are given, in characters of one byte. -/
def commentEvent (association text : String) : Event where
  kind := "issue_comment:created"
  payload :=
    ("\x7b\"body\": \x7b\"comment\": \x7b\"author_association\": \"" ++ association
      ++ "\", \"body\": \"" ++ text ++ "\"\x7d\x7d\x7d").toList.map fun char => char.toNat.toUInt8

theorem dispatch_comment_gated_rehearsal
    : let asking := commentEvent "OWNER" " /brig run "
      let outside := commentEvent "NONE" "/brig run"
      let project := Release.equipped
      asking.kind ∈ ["issue_comment:created", "issue_comment:edited"]
      ∧ AsksForBuild .plain {} asking.payload
      ∧ (∀ job ∈ Catalog.suite {},
          ((((router rehearsal).dispatch asking project).trace ()).acts.filterMap
            Act.start?).filter (fun spec => spec.name == job.name) = [job])
      ∧ ¬AsksForBuild .plain {} outside.payload
      ∧ (((router rehearsal).dispatch outside project).trace ()).acts.filterMap Act.start?
        = [] := by
  intro asking outside project
  have accepted : verdict .plain {} asking = .ok .accepted := by rfl
  have untrusted
    : verdict .plain {} outside = .ok (.untrusted (.str (Text.ofString "NONE"))) := by rfl
  have asks : AsksForBuild .plain {} asking.payload := verdict_accepted_iff.mp accepted
  have declined : ¬AsksForBuild .plain {} outside.payload := by
    rw [← verdict_accepted_iff, untrusted]
    nofun
  have shown
    : rehearsal.detailsUrl asking.buildId
      = .ok "https://brigadecore.github.io/kashti/builds/" := by cbv
  have created : asking.kind ∈ ["issue_comment:created", "issue_comment:edited"] :=
    List.mem_cons_self
  obtain ⟨_, started, _, _⟩ := dispatch_comment_gated rehearsal asking project () created
  obtain ⟨_, _, quiet, _⟩ := dispatch_comment_gated rehearsal outside project () created
  obtain ⟨none, _⟩ := quiet fun both => declined both.1
  exact ⟨created, asks, started ⟨asks, _, shown⟩, declined, none⟩

end Handlers

end Conductor
