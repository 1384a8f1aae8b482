import Conductor.Assoc
import Conductor.Number.Binary64
import Conductor.Value.Moment

/-!
Untyped values, as event payloads and configuration files hold them, and the walks that narrow
them. A walk that meets another shape than it asks for finds nothing.
-/

namespace Conductor

/-- A value of a data document. `σ` is the type of its strings and keys. -/
inductive Value (σ : Type) where
  | null
  | bool (b : Bool)
  | int (n : Int)
  | float (x : Binary64)
  | str (s : σ)
  | moment (m : Moment)
  | list (items : List (Value σ))
  | table (entries : List (σ × Value σ))
  deriving Repr, Inhabited

/-- The entries of a table in the order of their first appearance. -/
abbrev Table (σ : Type) := Assoc σ (Value σ)

namespace Table

variable {σ : Type}

def get? [BEq σ] (table : Table σ) (key : σ) : Option (Value σ) :=
  table.lookup key

end Table

namespace Value

variable {σ τ : Type}

def table? : Value σ → Option (Table σ)
  | .table entries => some entries
  | _ => none

def str? : Value σ → Option σ
  | .str s => some s
  | _ => none

/-- The value at the end of a path of keys through nested tables. -/
def atPath? [BEq σ] (value : Value σ) : List σ → Option (Value σ)
  | [] => some value
  | key :: rest =>
    match value with
    | .table entries =>
      match Table.get? entries key with
      | some inner => inner.atPath? rest
      | none => none
    | _ => none

mutual

/-- A value with its strings and keys mapped by `f`. -/
def map (f : σ → τ) : Value σ → Value τ
  | .null => .null
  | .bool b => .bool b
  | .int n => .int n
  | .float x => .float x
  | .str s => .str (f s)
  | .moment m => .moment m
  | .list items => .list (mapItems f items)
  | .table entries => .table (mapEntries f entries)

/-- The items of a list, each mapped by `f`. -/
def mapItems (f : σ → τ) : List (Value σ) → List (Value τ)
  | [] => []
  | item :: rest => item.map f :: mapItems f rest

/-- The entries of a table, each mapped by `f`. -/
def mapEntries (f : σ → τ) : List (σ × Value σ) → List (τ × Value τ)
  | [] => []
  | (key, value) :: rest => (f key, value.map f) :: mapEntries f rest

end

mutual

/-- Equality by value: numbers of different kinds are compared as numbers, with `true` as one
and `false` as zero, and tables without regard to the order of their entries.
-/
def equals [BEq σ] : Value σ → Value σ → Bool
  | .null, .null => true
  | .bool a, .bool b => a == b
  | .bool a, .int n => (if a then 1 else 0) == n
  | .int n, .bool b => n == if b then 1 else 0
  | .bool a, .float x => x.equalsInt (if a then 1 else 0)
  | .float x, .bool b => x.equalsInt (if b then 1 else 0)
  | .int m, .int n => m == n
  | .int n, .float x => x.equalsInt n
  | .float x, .int n => x.equalsInt n
  | .float x, .float y => x.equals y
  | .str s, .str t => s == t
  | .moment m, .moment n => m == n
  | .list xs, .list ys => equalItems xs ys
  | .table xs, .table ys => xs.length == ys.length && equalEntries xs ys
  | _, _ => false

/-- Equality of lists, item by item. -/
def equalItems [BEq σ] : List (Value σ) → List (Value σ) → Bool
  | [], [] => true
  | x :: xs, y :: ys => equals x y && equalItems xs ys
  | _, _ => false

/-- Whether every entry has an equal one under its key in the table `other`. -/
def equalEntries [BEq σ] : List (σ × Value σ) → Table σ → Bool
  | [], _ => true
  | (key, value) :: rest, other =>
    (match Table.get? other key with
      | some found => equals value found
      | none => false) && equalEntries rest other

end

end Value

end Conductor
