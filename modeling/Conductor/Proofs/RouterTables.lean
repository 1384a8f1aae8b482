import Conductor.Proofs.Lookup
import Conductor.Router
import Mathlib.Data.List.Induction
import Mathlib.Data.List.Nodup

/-! Tables of handlers over calls in a row. The first call for a kind puts its handler into the
table; later ones for the kind, and those for values that are no kinds, are refused and leave the
table as it was.
-/

namespace Conductor

variable {ε : Type}

/-- The kind that a handler is registered for, if it is one. -/
def RouteKey.kind? : RouteKey → Option EventKind
  | .kind known => some known
  | .other _ => none

/-- A call to a table: what a handler is to be registered for, and the handler. -/
structure Registration (ε : Type) where
  key : RouteKey
  handler : Handler ε

namespace Router

/-- The table after a call. A refused call leaves it as it was. -/
def after (router : Router ε) (call : Registration ε) : Router ε :=
  match router.register call.key call.handler with
  | .ok next => next
  | .error _ => router

/-- The table after calls in a row on an empty one. -/
def ofCalls (calls : List (Registration ε)) : Router ε :=
  calls.foldl after {}

/-- Calls in a row register a handler for a kind: one of them is for the two, and the table that the
calls before it leave takes it.
-/
def Registers (calls : List (Registration ε)) (kind : EventKind) (handler : Handler ε) : Prop :=
  ∃ earlier later next,
    calls = earlier ++ ⟨.kind kind, handler⟩ :: later
    ∧ (ofCalls earlier).register (.kind kind) handler = .ok next

-----------------------------------------------------------------------------------------
-- One call
-----------------------------------------------------------------------------------------

/-- What a call comes to: the handler of a kind without one is added behind all others, or the call
is refused, for a kind with a handler or for a value that is no kind, and the table is kept.
-/
inductive Called (router : Router ε) (call : Registration ε) : Prop
  | added (kind : EventKind) (asked : call.key = .kind kind) (free : router.handler? kind = none)
      (accepted : router.register call.key call.handler = .ok (router.after call))
      (extended : (router.after call).handlers = router.handlers ++ [(kind, call.handler)])
  | taken (kind : EventKind) (first : Handler ε) (asked : call.key = .kind kind)
      (held : router.handler? kind = some first)
      (refused : router.register call.key call.handler = .error (.taken kind))
      (kept : router.after call = router)
  | notKind (value : Value Text) (asked : call.key = .other value)
      (refused : router.register call.key call.handler = .error (.notKind value))
      (kept : router.after call = router)

/-- Every call comes to one of the three, by cases on its key and on what the table holds. -/
theorem called (router : Router ε) (call : Registration ε) : router.Called call := by
  obtain ⟨key, handler⟩ := call
  cases key with
  | other value => exact .notKind value rfl rfl rfl
  | kind kind =>
      rcases held : router.handler? kind with _ | first
      · have accepted : router.register (.kind kind) handler
            = .ok ⟨router.handlers ++ [(kind, handler)]⟩ := by
          rw [register, held]
        have next : router.after ⟨.kind kind, handler⟩
            = ⟨router.handlers ++ [(kind, handler)]⟩ := by
          rw [after, accepted]
        exact .added kind rfl held (accepted.trans (congrArg Except.ok next.symm))
          (congrArg Router.handlers next)
      · have refused : router.register (.kind kind) handler = .error (.taken kind) := by
          rw [register, held]
        exact .taken kind first rfl held refused (by rw [after, refused])

/-- A kind is listed exactly if it has a handler. -/
theorem mem_kinds_iff {router : Router ε} {kind : EventKind}
    : kind ∈ router.kinds ↔ ∃ handler, router.handler? kind = some handler := by
  rw [← Option.ne_none_iff_exists', ne_eq, handler?, lookup_eq_none_iff_notMem, not_not, kinds]

/-- A call for a kind is taken exactly if the kind has no handler. -/
theorem register_kind_ok_iff {router : Router ε} {kind : EventKind} {handler : Handler ε}
    : (∃ next, router.register (.kind kind) handler = .ok next)
      ↔ router.handler? kind = none := by
  rcases held : router.handler? kind with _ | first <;> simp [register, held]

-----------------------------------------------------------------------------------------
-- Calls in a row
-----------------------------------------------------------------------------------------

theorem ofCalls_concat (calls : List (Registration ε)) (call : Registration ε)
    : ofCalls (calls ++ [call]) = (ofCalls calls).after call := by
  rw [ofCalls, List.foldl_append]
  rfl

/-- A further call registers a handler exactly if it is for a kind that has none so far. -/
theorem registers_concat {calls : List (Registration ε)} {call : Registration ε}
    {kind : EventKind} {handler : Handler ε}
    : Registers (calls ++ [call]) kind handler
      ↔ Registers calls kind handler
        ∨ call = ⟨.kind kind, handler⟩ ∧ (ofCalls calls).handler? kind = none := by
  constructor
  · rintro ⟨earlier, later, next, split, taken⟩
    rcases List.eq_nil_or_concat later with rfl | ⟨before, last, rfl⟩
    · obtain ⟨rfl, same⟩ := List.append_inj' split rfl
      exact .inr ⟨by simpa using same, register_kind_ok_iff.mp ⟨next, taken⟩⟩
    · rw [List.concat_eq_append, ← List.cons_append, ← List.append_assoc] at split
      exact .inl ⟨earlier, before, next, (List.append_inj' split rfl).1, taken⟩
  · rintro (⟨earlier, later, next, rfl, taken⟩ | ⟨rfl, free⟩)
    · exact ⟨earlier, later ++ [call], next, by simp, taken⟩
    · obtain ⟨next, taken⟩ := register_kind_ok_iff.mpr free
      exact ⟨calls, [], next, rfl, taken⟩

/-- What a table holds after calls is what they have registered, by induction on the last of them.
-/
theorem handler?_ofCalls {calls : List (Registration ε)} {kind : EventKind} {handler : Handler ε}
    : (ofCalls calls).handler? kind = some handler ↔ Registers calls kind handler := by
  induction calls using List.reverseRecOn with
  | nil => simp [ofCalls, handler?, Registers]
  | append_singleton calls call ih =>
      rw [ofCalls_concat, registers_concat, ← ih]
      cases called (ofCalls calls) call with
      | added other asked free _ extended =>
          obtain ⟨key, _⟩ := call
          cases asked
          rw [handler?, extended, List.lookup_append, ← handler?]
          rcases held : (ofCalls calls).handler? kind with _ | first
          · by_cases same : kind = other
            · simp [same]
            · have unlike : (kind == other) = false := beq_false_of_ne same
              simp [List.lookup_cons, unlike, Ne.symm same]
          · simp
      | taken other first asked held _ kept =>
          rw [kept]
          refine ⟨.inl, ?_⟩
          rintro (before | ⟨rfl, free⟩)
          · exact before
          · cases asked
            exact absurd (held.symm.trans free) (Option.some_ne_none _)
      | notKind value asked _ kept =>
          rw [kept]
          refine ⟨.inl, ?_⟩
          rintro (before | ⟨rfl, _⟩)
          · exact before
          · cases asked

/-- Without repetitions, a further item is at the end of a list or is in it already. -/
theorem eraseDups_concat {α : Type} [DecidableEq α] (items : List α) (item : α)
    : (items ++ [item]).eraseDups
      = if item ∈ items then items.eraseDups else items.eraseDups ++ [item] := by
  have alone : [item].eraseDups = [item] := rfl
  rw [List.eraseDups_append]
  split
  case isTrue old => simp [List.removeAll, old]
  case isFalse fresh => simp [List.removeAll, fresh, alone]

theorem nodup_eraseDups {α : Type} [DecidableEq α] (items : List α) : items.eraseDups.Nodup := by
  induction items using List.reverseRecOn with
  | nil => exact List.nodup_nil
  | append_singleton items item ih =>
      rw [eraseDups_concat]
      split
      case isTrue => exact ih
      case isFalse fresh =>
          refine List.nodup_append.mpr ⟨ih, List.nodup_singleton item, ?_⟩
          rintro old member _ last rfl
          rw [List.mem_singleton.mp last, List.mem_eraseDups] at member
          exact fresh member

/-- The kinds listed after calls are those the calls were for, each where it first occurs, by
induction on the last call.
-/
theorem kinds_ofCalls (calls : List (Registration ε))
    : (ofCalls calls).kinds = (calls.filterMap (·.key.kind?)).eraseDups := by
  induction calls using List.reverseRecOn with
  | nil => rfl
  | append_singleton calls call ih =>
      rw [ofCalls_concat, List.filterMap_append]
      cases called (ofCalls calls) call with
      | added kind asked free _ extended =>
          have fresh : kind ∉ calls.filterMap (·.key.kind?) := by
            rw [← List.mem_eraseDups, ← ih, mem_kinds_iff, free]
            simp
          have last : [call].filterMap (·.key.kind?) = [kind] := by simp [asked, RouteKey.kind?]
          rw [last, eraseDups_concat, if_neg fresh, ← ih, kinds, extended, List.map_append]
          rfl
      | taken kind first asked held _ kept =>
          have old : kind ∈ calls.filterMap (·.key.kind?) := by
            rw [← List.mem_eraseDups, ← ih, mem_kinds_iff]
            exact ⟨first, held⟩
          have last : [call].filterMap (·.key.kind?) = [kind] := by simp [asked, RouteKey.kind?]
          rw [last, eraseDups_concat, if_pos old, kept, ih]
      | notKind value asked _ kept =>
          have last : [call].filterMap (·.key.kind?) = [] := by simp [asked, RouteKey.kind?]
          rw [last, List.append_nil, kept, ih]

/-- No handler is held for a kind exactly if no call was for it. -/
theorem handler?_ofCalls_eq_none_iff {calls : List (Registration ε)} {kind : EventKind}
    : (ofCalls calls).handler? kind = none ↔ ∀ call ∈ calls, call.key ≠ .kind kind := by
  have asks : ∀ key : RouteKey, key.kind? = some kind ↔ key = .kind kind := by
    intro key
    cases key <;> simp [RouteKey.kind?]
  rw [handler?, lookup_eq_none_iff_notMem, ← kinds, kinds_ofCalls, List.mem_eraseDups,
    List.mem_filterMap]
  simp only [asks, not_exists, not_and, ne_eq]

/-- The handler that calls register for a kind is that of the first call for it. -/
theorem registers_iff_first {calls : List (Registration ε)} {kind : EventKind}
    {handler : Handler ε}
    : Registers calls kind handler
      ↔ ∃ earlier later,
          calls = earlier ++ ⟨.kind kind, handler⟩ :: later
          ∧ ∀ call ∈ earlier, call.key ≠ .kind kind := by
  simp only [Registers, exists_and_left, register_kind_ok_iff, handler?_ofCalls_eq_none_iff]

-----------------------------------------------------------------------------------------
-- What a table is asked for
-----------------------------------------------------------------------------------------

/-- Kinds are found to have handlers, or those without one are named as they are required. -/
theorem validate_eq (router : Router ε) (required : List EventKind)
    : router.validate required
      = if required.filter (· ∉ router.kinds) = [] then .ok ()
        else .error (.unhandled (required.filter (· ∉ router.kinds))) := by
  have unlisted : ∀ kind, (router.handler? kind).isNone = decide (kind ∉ router.kinds) := by
    intro kind
    rw [Bool.eq_iff_iff, Option.isNone_iff_eq_none, decide_eq_true_iff, handler?, kinds,
      lookup_eq_none_iff_notMem]
  simp only [validate, unlisted]
  split
  case h_1 none => rw [none, if_pos rfl]
  case h_2 some => rw [if_neg some]

/-- An event is answered by the handler of its kind. -/
theorem dispatch_held {router : Router ε} {kind : EventKind} {handler : Handler ε} {event : Event}
    (named : kind.text = event.kind) (held : router.handler? kind = some handler)
    (project : Project)
    : router.dispatch event project = handler event project := by
  rw [dispatch, ← named, EventKind.ofText?_text, Option.bind_some, held]

/-- An event of no kind with a handler is passed over. -/
theorem dispatch_unheld {router : Router ε} {event : Event}
    (none : ∀ kind : EventKind, kind.text = event.kind → router.handler? kind = none)
    (project : Project) (state : ε)
    : (router.dispatch event project).trace state
      = ⟨.ok (.ok ()), state, [.did (.wrote (ignored event))]⟩ := by
  have unheld : (EventKind.ofText? event.kind).bind router.handler? = .none := by
    rw [Option.bind_eq_none_iff]
    exact fun kind known => none kind (EventKind.text_of_ofText? known)
  rw [dispatch, unheld]
  rfl

/-- Over calls in a row a table is a map in which the first call for a kind wins.

A further call is refused exactly for a value that is no kind or for a kind that a call before it
has registered; the error says which, and the table stays as it was. The handler registered for a
kind is that of the first call for it. The kinds are listed without repetitions, in the order of the
first calls for them. Required kinds that are not registered, and no others, are named as they are
required. An event is answered by the handler registered for its kind and by nothing else; one
without such a handler comes to a single message of small weight.
Witness: what one call comes to, by induction on the last call.
-/
theorem ofCalls_firstWins (calls : List (Registration ε)) (call : Registration ε)
    (required : List EventKind) (event : Event) (project : Project) (state : ε)
    : let table := ofCalls calls
      let answer := table.register call.key call.handler
      ((∃ error, answer = .error error)
          ↔ (∃ value, call.key = .other value)
            ∨ ∃ kind handler, call.key = .kind kind ∧ Registers calls kind handler)
      ∧ (∀ error,
          answer = .error error
          → ofCalls (calls ++ [call]) = table
            ∧ (∀ value, call.key = .other value → error = .notKind value)
            ∧ ∀ kind, call.key = .kind kind → error = .taken kind)
      ∧ (∀ kind handler,
          Registers calls kind handler
          ↔ ∃ earlier later,
              calls = earlier ++ ⟨.kind kind, handler⟩ :: later
              ∧ ∀ other ∈ earlier, other.key ≠ .kind kind)
      ∧ table.kinds = (calls.filterMap (·.key.kind?)).eraseDups
      ∧ table.kinds.Nodup
      ∧ (∀ kind, kind ∈ table.kinds ↔ ∃ handler, Registers calls kind handler)
      ∧ (table.validate required = .ok ()
          ↔ ∀ kind ∈ required, ∃ handler, Registers calls kind handler)
      ∧ (∀ error,
          table.validate required = .error error
          → let missing := required.filter (· ∉ table.kinds)
            error = .unhandled missing
            ∧ error.message
              = "no handler registered for: " ++ ", ".intercalate (missing.map EventKind.text))
      ∧ (∀ kind handler,
          kind.text = event.kind
          → Registers calls kind handler
          → table.dispatch event project = handler event project)
      ∧ ((∀ kind handler, kind.text = event.kind → ¬Registers calls kind handler)
          → (table.dispatch event project).trace state
              = ⟨.ok (.ok ()), state, [.did (.wrote (ignored event))]⟩)
      ∧ (ignored event).record.style = .dim := by
  intro table answer
  have listed : ∀ kind, kind ∈ table.kinds ↔ ∃ handler, Registers calls kind handler := by
    intro kind
    simp only [table, mem_kinds_iff, handler?_ofCalls]
  have listing := kinds_ofCalls calls
  refine ⟨?refused, ?kept, fun _ _ => registers_iff_first, listing, ?single, listed, ?valid,
    ?missing, fun kind handler named registered =>
      dispatch_held named (handler?_ofCalls.mpr registered) project, ?passed, rfl⟩
  case refused =>
      cases called table call with
      | added kind asked free accepted _ =>
          have unregistered : ∀ handler, ¬Registers calls kind handler := by
            intro handler registered
            exact Option.some_ne_none _ ((handler?_ofCalls.mpr registered).symm.trans free)
          simp [answer, accepted, asked, unregistered]
      | taken kind first asked held refused _ =>
          have registered : Registers calls kind first := handler?_ofCalls.mp held
          simp only [answer, refused, asked]
          exact ⟨fun _ => .inr ⟨kind, first, rfl, registered⟩, fun _ => ⟨_, rfl⟩⟩
      | notKind value asked refused _ =>
          simp only [answer, refused, asked]
          exact ⟨fun _ => .inl ⟨value, rfl⟩, fun _ => ⟨_, rfl⟩⟩
  case kept =>
      intro error answered
      rw [ofCalls_concat]
      cases called table call with
      | added kind asked free accepted _ => cases answered.symm.trans accepted
      | taken kind first asked held refused kept =>
          cases answered.symm.trans refused
          simp [asked, kept, table]
      | notKind value asked refused kept =>
          cases answered.symm.trans refused
          simp [asked, kept, table]
  case single =>
      rw [listing]
      exact nodup_eraseDups _
  case valid =>
      rw [validate_eq]
      simp only [← listed]
      split
      case isTrue all => simpa using all
      case isFalse missing => simpa using missing
  case missing =>
      intro error refused
      rw [validate_eq] at refused
      split at refused
      case isTrue => cases refused
      case isFalse =>
          cases refused
          exact ⟨rfl, rfl⟩
  case passed =>
      intro unregistered
      refine dispatch_unheld (fun kind named => ?_) project state
      rw [Option.eq_none_iff_forall_ne_some]
      exact fun handler held => unregistered kind handler named (handler?_ofCalls.mp held)

end Router

end Conductor
