import Conductor.Config.Basic
import Conductor.Console
import Conductor.Event
import Conductor.Fault
import Conductor.Pattern.Matching

/-! Release tags: refs that match a pattern, which captures the version in its first group. -/

namespace Conductor

/-- Tells which refs are release tags. -/
structure TagMatcher where
  pattern : Pattern
  deriving DecidableEq, Repr

namespace TagMatcher

def ofSource (engine : Pattern.Engine) (source : String) : Except Fault TagMatcher :=
  match Pattern.parse engine source with
  | .ok pattern => .ok ⟨pattern⟩
  | .error refusal => .error (.pattern refusal)

def notice (matcher : TagMatcher) (ref : String) : Message :=
  .info ("Ref " ++ ref ++ " does not match expected official release tag regex ("
    ++ matcher.pattern.source ++ "); not releasing.")

/-- The version in a release tag, and what is written about the ref. A tag that is no release tag
is noticed; other refs are passed over in silence.
-/
def version? (matcher : TagMatcher) (ref : String)
    : Except Fault (Option String × List Message) :=
  match matcher.pattern.root.fullMatch? ref.toList with
  | some place =>
    if matcher.pattern.groupCount = 0 then .error .noGroup
    else .ok ((place.group? 1).map String.ofList, [])
  | none => .ok (none, if Ref.isTag ref then [matcher.notice ref] else [])

end TagMatcher

end Conductor
