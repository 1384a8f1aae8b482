import Conductor.Value.Display

/-!
Data with named fields, as results and errors are shown and compared: records by the name of
their kind and their fields in order, tuples, and plain values.
-/

namespace Conductor

/-- A value, a tuple, or a record of a named kind. -/
inductive Datum where
  | value (v : Value String)
  | units (text : Text)
  | tuple (items : List Datum)
  | record (kind : String) (fields : List (String × Datum))

namespace Datum

mutual

/-- A datum as text. A tuple of one item keeps its comma. -/
def shown : Datum → String
  | .value v => v.shown
  | .units text => Text.quotedUnits text false
  | .tuple [item] => "(" ++ item.shown ++ ",)"
  | .tuple items => "(" ++ ", ".intercalate (shownItems items) ++ ")"
  | .record kind fields => kind ++ "(" ++ ", ".intercalate (shownFields fields) ++ ")"

def shownItems : List Datum → List String
  | [] => []
  | item :: rest => item.shown :: shownItems rest

def shownFields : List (String × Datum) → List String
  | [] => []
  | (name, item) :: rest => (name ++ "=" ++ item.shown) :: shownFields rest

end

mutual

/-- Equality of data: equal values, or the same kind with equal parts. -/
def equals : Datum → Datum → Bool
  | .value v, .value w => v.equals w
  | .units s, .units t => s == t
  | .units s, .value (.str t) => s == Text.ofString t
  | .value (.str s), .units t => Text.ofString s == t
  | .tuple xs, .tuple ys => equalItems xs ys
  | .record a xs, .record b ys => a == b && equalFields xs ys
  | _, _ => false

/-- Equality of tuples, item by item. -/
def equalItems : List Datum → List Datum → Bool
  | [], [] => true
  | x :: xs, y :: ys => equals x y && equalItems xs ys
  | _, _ => false

/-- Equality of records, field by field. -/
def equalFields : List (String × Datum) → List (String × Datum) → Bool
  | [], [] => true
  | (a, x) :: xs, (b, y) :: ys => a == b && equals x y && equalFields xs ys
  | _, _ => false

end

/-- A datum within a sentence: a string stands without quotes. -/
def plain : Datum → String
  | .value (.str s) => s
  | .units text => text.shown
  | datum => datum.shown

def ofString (s : String) : Datum := .value (.str s)

def ofStrings (items : List String) : Datum := .tuple (items.map ofString)

def ofString? (s : Option String) : Datum := .value ((s.map Value.str).getD .null)

end Datum

/-- The result of something that can fail: a value, or an error described by a datum. -/
abbrev Result := Except Datum (Value String)

namespace Result

def isOk : Result → Bool
  | .ok _ => true
  | .error _ => false

/-- The value of a result, or the sentence that there is none. -/
def unwrap : Result → Except String (Value String)
  | .ok value => .ok value
  | .error e => .error ("called unwrap on Err: " ++ e.plain)

/-- The value of a result, or a value in its place. -/
def unwrapOr (result : Result) (default : Value String) : Value String :=
  match result with
  | .ok value => value
  | .error _ => default

/-- A result with its error mapped by `f`. -/
def mapError (f : Datum → Datum) : Result → Result
  | .ok value => .ok value
  | .error e => .error (f e)

def shown : Result → String
  | .ok value => "Ok(" ++ value.shown ++ ")"
  | .error e => "Err(" ++ e.shown ++ ")"

/-- Equality of results: both values or both errors, and equal as such. -/
def equals : Result → Result → Bool
  | .ok v, .ok w => v.equals w
  | .error e, .error f => e.equals f
  | _, _ => false

end Result

end Conductor
