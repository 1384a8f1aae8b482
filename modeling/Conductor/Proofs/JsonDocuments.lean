import Conductor.Json.Reader

/-! Documents as trees of values whose numbers are kept as they are written. A document has a value,
it is written with the same blanks around each of its parts, and the first fault in it, if there is
one, is a whole number with too many digits or a list or table nested too deeply.
-/

namespace Conductor.Json

-----------------------------------------------------------------------------------------
-- Documents
-----------------------------------------------------------------------------------------

/-- A number as it is written: a whole part without needless zeros, the digits of a fraction if it
has one, and the sign and the digits of a power of ten if it has one.
-/
structure Numeral where
  negative : Bool
  whole : List Char
  fraction : List Char := []
  power : Option (Bool × List Char) := none
  whole_digits : ∀ c ∈ whole, Text.isAsciiDigit c
  whole_leads : whole = ['0'] ∨ ∃ c rest, whole = c :: rest ∧ c ≠ '0'
  fraction_digits : ∀ c ∈ fraction, Text.isAsciiDigit c
  power_digits
    : ∀ negative digits,
        power = some (negative, digits) → digits ≠ [] ∧ ∀ c ∈ digits, Text.isAsciiDigit c

/-- A document: a tree of values. Keys of tables may stand in it more than once. -/
inductive Document where
  | null
  | bool (b : Bool)
  | number (n : Numeral)
  | str (s : Text)
  | list (items : List Document)
  | table (entries : List (Text × Document))

namespace Numeral

/-- Whether a number has neither a fraction nor a power. -/
def isWhole (n : Numeral) : Bool :=
  n.fraction.isEmpty && n.power.isNone

def wholeChars (n : Numeral) : List Char :=
  (if n.negative then ['-'] else []) ++ n.whole

def fractionChars (n : Numeral) : List Char :=
  if n.fraction.isEmpty then [] else '.' :: n.fraction

def powerChars (n : Numeral) : List Char :=
  match n.power with
  | none => []
  | some (negative, digits) => 'e' :: (if negative then ['-'] else []) ++ digits

def chars (n : Numeral) : List Char :=
  n.wholeChars ++ n.fractionChars ++ n.powerChars

/-- A whole number is read exactly, any other one to double precision. -/
def value (n : Numeral) : Value Text :=
  if n.isWhole then
    let size : Int := Text.digitsValue n.whole
    .int (if n.negative then -size else size)
  else
    let (negative, digits) := n.power.getD (false, [])
    let power : Int := Text.digitsValue digits
    .float (.ofDecimal n.negative (Text.digitsValue (n.whole ++ n.fraction))
      ((if negative then -power else power) - n.fraction.length))

/-- Whether a number is whole and has too many digits. -/
def fault? (n : Numeral) : Option Fault :=
  if n.isWhole ∧ maxDigits < n.whole.length then some (.longNumber n.whole.length) else none

end Numeral

namespace Document

mutual

def value : Document → Value Text
  | .null => .null
  | .bool b => .bool b
  | .number n => n.value
  | .str s => .str s
  | .list items => .list (values items)
  | .table entries => .table (Assoc.ofBindings (bindings entries))

def values : List Document → List (Value Text)
  | [] => []
  | item :: rest => item.value :: values rest

def bindings : List (Text × Document) → List (Text × Value Text)
  | [] => []
  | (key, document) :: rest => (key, document.value) :: bindings rest

end

mutual

/-- What stands first in a document, at a depth, that is over a limit. -/
def fault? (limit depth : Nat) : Document → Option Fault
  | .number n => n.fault?
  | .list items => if limit ≤ depth then some .tooDeep else itemsFault? limit (depth + 1) items
  | .table entries =>
    if limit ≤ depth then some .tooDeep else entriesFault? limit (depth + 1) entries
  | _ => none

def itemsFault? (limit depth : Nat) : List Document → Option Fault
  | [] => none
  | item :: rest => (item.fault? limit depth).or (itemsFault? limit depth rest)

def entriesFault? (limit depth : Nat) : List (Text × Document) → Option Fault
  | [] => none
  | (_, document) :: rest => (document.fault? limit depth).or (entriesFault? limit depth rest)

end

end Document

/-- A unit of a string as it is written. -/
def writtenUnit (unit : TextUnit) : Text :=
  if unit = .char '"' ∨ unit = .char '\\' then [.char '\\', unit]
  else if unit.code < 0x20 then
    ['\\', 'u', '0', '0', (unit.code / 16).digitChar, (unit.code % 16).digitChar].map .char
  else [unit]

/-- A string as it is written. -/
def written (s : Text) : Text :=
  .char '"' :: (s.flatMap writtenUnit ++ [.char '"'])

/-- A text with blanks on both sides. -/
def padded (gap text : Text) : Text :=
  gap ++ (text ++ gap)

namespace Document

mutual

/-- A document as it is written with the given blanks around each of its parts. -/
def core (gap : Text) : Document → Text
  | .null => Text.ofString "null"
  | .bool true => Text.ofString "true"
  | .bool false => Text.ofString "false"
  | .number n => n.chars.map .char
  | .str s => written s
  | .list [] => .char '[' :: (gap ++ [.char ']'])
  | .list (item :: rest) => .char '[' :: (padded gap (item.core gap) ++ moreItems gap rest)
  | .table [] => .char '\x7b' :: (gap ++ [.char '\x7d'])
  | .table ((key, document) :: rest) =>
    .char '\x7b' :: (padded gap (written key)
      ++ .char ':' :: (padded gap (document.core gap) ++ moreEntries gap rest))

/-- The items of a list behind its first one, with the closing bracket. -/
def moreItems (gap : Text) : List Document → Text
  | [] => [.char ']']
  | item :: rest => .char ',' :: (padded gap (item.core gap) ++ moreItems gap rest)

/-- The entries of a table behind its first one, with the closing bracket. -/
def moreEntries (gap : Text) : List (Text × Document) → Text
  | [] => [.char '\x7d']
  | (key, document) :: rest =>
    .char ',' :: (padded gap (written key)
      ++ .char ':' :: (padded gap (document.core gap) ++ moreEntries gap rest))

end

def text (gap : Text) (document : Document) : Text :=
  padded gap (document.core gap)

end Document

-----------------------------------------------------------------------------------------
-- Modest documents
-----------------------------------------------------------------------------------------

namespace Document

mutual

/-- How deeply the lists and tables of a document are nested. -/
def depth : Document → Nat
  | .list items => itemsDepth items + 1
  | .table entries => entriesDepth entries + 1
  | _ => 0

def itemsDepth : List Document → Nat
  | [] => 0
  | item :: rest => max item.depth (itemsDepth rest)

def entriesDepth : List (Text × Document) → Nat
  | [] => 0
  | (_, document) :: rest => max document.depth (entriesDepth rest)

end

mutual

/-- The numbers in a document. -/
def numerals : Document → List Numeral
  | .number n => [n]
  | .list items => itemsNumerals items
  | .table entries => entriesNumerals entries
  | _ => []

def itemsNumerals : List Document → List Numeral
  | [] => []
  | item :: rest => item.numerals ++ itemsNumerals rest

def entriesNumerals : List (Text × Document) → List Numeral
  | [] => []
  | (_, document) :: rest => document.numerals ++ entriesNumerals rest

end

/-- A document is within the limits: it is not nested too deeply, and none of its whole numbers has
too many digits.
-/
structure Modest (limit : Nat) (document : Document) : Prop where
  depth : document.depth ≤ limit
  numerals : ∀ n ∈ document.numerals, n.isWhole → n.whole.length ≤ maxDigits

/-- One level more is within the limit along with all that is nested in it, or it is over it. -/
theorem level_iff {limit level inner : Nat} {fault? : Option Fault} {others : Prop}
    (below : level + 1 ≤ limit → (fault? = none ↔ level + 1 + inner ≤ limit ∧ others))
    : (if limit ≤ level then some .tooDeep else fault?) = none
      ↔ level + (inner + 1) ≤ limit ∧ others := by
  split
  · refine iff_of_false nofun fun within => ?_
    omega
  · rw [below (by omega), Nat.add_assoc, Nat.add_comm 1 inner]

/-- Two parts side by side are within the limits if both are. -/
theorem parts_iff {limit level first second : Nat} {left right : Option Fault}
    {here more : List Numeral}
    (leftNone : left = none ↔ level + first ≤ limit ∧ ∀ n ∈ here, n.fault? = none)
    (rightNone : right = none ↔ level + second ≤ limit ∧ ∀ n ∈ more, n.fault? = none)
    : left.or right = none
      ↔ level + max first second ≤ limit ∧ ∀ n ∈ here ++ more, n.fault? = none := by
  have both : level + max first second ≤ limit
      ↔ level + first ≤ limit ∧ level + second ≤ limit := by
    omega
  rw [Option.or_eq_none_iff, leftNone, rightNone, List.forall_mem_append, both]
  exact and_and_and_comm

mutual

/-- A document has no fault if its numbers have none and it is not nested too deeply. -/
theorem fault?_none_iff {limit level : Nat} (within : level ≤ limit) (document : Document)
    : document.fault? limit level = none
      ↔ level + document.depth ≤ limit ∧ ∀ n ∈ document.numerals, n.fault? = none := by
  cases document with
  | null | bool | str => simp [fault?, depth, numerals, within]
  | number n => simp [fault?, depth, numerals, within]
  | list items =>
      simp only [fault?, depth, numerals]
      exact level_iff fun deeper => itemsFault?_none_iff deeper items
  | table entries =>
      simp only [fault?, depth, numerals]
      exact level_iff fun deeper => entriesFault?_none_iff deeper entries

theorem itemsFault?_none_iff {limit level : Nat} (within : level ≤ limit) (items : List Document)
    : itemsFault? limit level items = none
      ↔ level + itemsDepth items ≤ limit ∧ ∀ n ∈ itemsNumerals items, n.fault? = none := by
  cases items with
  | nil => simp [itemsFault?, itemsDepth, itemsNumerals, within]
  | cons item rest =>
      simp only [itemsFault?, itemsDepth, itemsNumerals]
      exact parts_iff (fault?_none_iff within item) (itemsFault?_none_iff within rest)

theorem entriesFault?_none_iff {limit level : Nat} (within : level ≤ limit)
    (entries : List (Text × Document))
    : entriesFault? limit level entries = none
      ↔ level + entriesDepth entries ≤ limit
        ∧ ∀ n ∈ entriesNumerals entries, n.fault? = none := by
  cases entries with
  | nil => simp [entriesFault?, entriesDepth, entriesNumerals, within]
  | cons entry rest =>
      simp only [entriesFault?, entriesDepth, entriesNumerals]
      exact parts_iff (fault?_none_iff within entry.2) (entriesFault?_none_iff within rest)

end

/-- A document is modest if no fault stands in it. -/
theorem modest_iff {limit : Nat} (document : Document)
    : document.Modest limit ↔ document.fault? limit 0 = none := by
  have number (n : Numeral)
    : n.fault? = none ↔ (n.isWhole → n.whole.length ≤ maxDigits) := by
    simp [Numeral.fault?]
  rw [fault?_none_iff (Nat.zero_le _), Nat.zero_add]
  simp only [number]
  exact ⟨fun modest => ⟨modest.depth, modest.numerals⟩, fun within => ⟨within.1, within.2⟩⟩

/-- What a document is answered with: the table that it says, if it says one, or the first fault in
it.
-/
def answer (limit : Nat) (document : Document) : Except Fault (Option (Table Text)) :=
  match document.fault? limit 0 with
  | none => .ok document.value.table?
  | some fault => .error fault

/-- A document is answered exactly if it is modest, and then with its own table. -/
theorem answer_eq_ok_iff {limit : Nat} {document : Document} {table? : Option (Table Text)}
    : document.answer limit = .ok table?
      ↔ document.Modest limit ∧ document.value.table? = table? := by
  rw [modest_iff, answer]
  cases document.fault? limit 0 <;> simp

end Document

end Conductor.Json
