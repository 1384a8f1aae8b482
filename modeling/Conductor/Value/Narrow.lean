import Conductor.Text.Blank
import Conductor.Value.Basic

/-!
Tables of untyped values narrowed to the shapes that a reader asks for. An entry of another shape
counts as absent.
-/

namespace Conductor.Table

/-- The string under a key without the blanks at its ends; a blank string counts as absent. -/
def string? (table : Table String) (key : String) : Option String :=
  match table.get? key with
  | some (.str s) => Text.nonBlank? s
  | _ => none

def inner? (table : Table String) (key : String) : Option (Table String) :=
  (table.get? key).bind Value.table?

/-- The entries that hold strings, as they are. -/
def strings (table : Table String) : List (String × String) :=
  table.filterMap fun (key, value) => value.str?.map (key, ·)

/-- Entries under keys of any kind as a table; none when some key is not a string. -/
def ofEntries? (entries : List (Value String × Value String)) : Option (Table String) :=
  entries.mapM fun (key, value) => key.str?.map (·, value)

end Conductor.Table
