/-! Strings that start with another string, and strings cut at a character. -/

namespace Conductor.Text

/-- The rest of a list after the elements of `start`, if it begins with them. -/
def after? {α : Type} [BEq α] : List α → List α → Option (List α)
  | [], items => some items
  | _ :: _, [] => none
  | a :: start, b :: items => if a == b then after? start items else none

/-- The rest of a string after `start`, if it begins with it. -/
def restAfter? (start s : String) : Option String :=
  (after? start.toList s.toList).map String.ofList

def beginsWith (start s : String) : Bool :=
  (after? start.toList s.toList).isSome

/-- Whether `part` occurs in a list. -/
def occursIn {α : Type} [BEq α] (part : List α) : List α → Bool
  | [] => part.isEmpty
  | item :: rest => (after? part (item :: rest)).isSome || occursIn part rest

/-- A string up to the first `c` and, if there is one, the string behind it. -/
def cutAt (c : Char) (s : String) : String × Option String :=
  let cs := s.toList
  (String.ofList (cs.takeWhile (· != c)),
    match cs.dropWhile (· != c) with
    | [] => none
    | _ :: rest => some (String.ofList rest))

end Conductor.Text
