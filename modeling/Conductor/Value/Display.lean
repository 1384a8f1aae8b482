import Conductor.Number.Shortest
import Conductor.Text.Quoted
import Conductor.Value.Basic

/-! The text in which a value is shown to a person: literals, brackets and quoted strings. -/

namespace Conductor.Value

variable {σ : Type}

/-- The spellings of the three constants in shown values. -/
structure ConstantNames where
  null : String
  yes : String
  no : String

/-- Shown values write their constants with capital letters. -/
def constantNames : ConstantNames := ⟨"None", "True", "False"⟩

mutual

/-- A value as text, its strings written by `quote`. -/
def display (quote : σ → String) : Value σ → String
  | .null => constantNames.null
  | .bool b => if b then constantNames.yes else constantNames.no
  | .int n => toString n
  | .float x => x.text
  | .str s => quote s
  | .moment m => m.text
  | .list items => "[" ++ ", ".intercalate (displayItems quote items) ++ "]"
  | .table entries => "\x7b" ++ ", ".intercalate (displayEntries quote entries) ++ "\x7d"

def displayItems (quote : σ → String) : List (Value σ) → List String
  | [] => []
  | item :: rest => item.display quote :: displayItems quote rest

def displayEntries (quote : σ → String) : List (σ × Value σ) → List String
  | [] => []
  | (key, value) :: rest =>
    (quote key ++ ": " ++ value.display quote) :: displayEntries quote rest

end

def shown (value : Value String) : String :=
  value.display Text.quoted

def shownUnits (value : Value Text) : String :=
  value.display (Text.quotedUnits · false)

end Conductor.Value
