import Conductor.Json.Reader
import Conductor.Pattern.Reader
import Conductor.Template
import Conductor.Toml.Reader

/-! What programs find on the platform that they run on, and do not decide themselves. -/

namespace Conductor

/-- A platform: how deep documents may be nested, what its patterns can do, the attributes of texts,
and its words on documents and patterns that break the grammar.
-/
structure Platform where
  jsonDepth : Nat
  tomlRoom : Toml.Room
  patterns : Pattern.Engine
  attributes : Template.Attributes
  tomlFlaw : List Char → String
  patternFlaw : String → String

namespace Platform

/-- The attribute that the last of some accesses asks for. -/
def lastAttribute (path : List Template.Access) : String :=
  match path.getLast? with
  | some (.attribute name) => name
  | _ => ""

/-- A platform with wide limits, on which texts have no attributes and characters no names. -/
def plain : Platform where
  jsonDepth := 9990
  tomlRoom opened _ := opened.length < 480
  patterns :=
    { named _ := none
      room opened _ := opened.length < 480
      compiles _ := true
      roomy _ _ few := decide_eq_true (Nat.lt_of_le_of_lt few (by decide))
      brief _ _ := rfl }
  attributes _ path := .error (.noAttribute (lastAttribute path))
  tomlFlaw _ := "the document breaks the grammar"
  patternFlaw _ := "the pattern breaks the grammar"

end Platform

end Conductor
