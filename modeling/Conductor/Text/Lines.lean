/-!
Lines of text. A line ends at a line feed, a carriage return, both in this order, or at one of
the other line boundaries of Unicode; a boundary at the very end starts no further line.
-/

namespace Conductor.Text

/-- Characters that end a line. -/
def isLineEnd (c : Char) : Bool :=
  let code := c.toNat
  10 ≤ code && code ≤ 13 || 0x1C ≤ code && code ≤ 0x1E || code == 0x85 || code == 0x2028
    || code == 0x2029

/-- The lines of `rest`, where `line` holds the current line so far, and `done` the lines before
it, both in reverse.
-/
def linesFrom (done : List (List Char)) (line : List Char) : List Char → List (List Char)
  | [] => (if line.isEmpty then done else line.reverse :: done).reverse
  | '\r' :: '\n' :: rest => linesFrom (line.reverse :: done) [] rest
  | c :: rest =>
    if isLineEnd c then linesFrom (line.reverse :: done) [] rest
    else linesFrom done (c :: line) rest

/-- The lines of a character list, without their ends. -/
def charLines (cs : List Char) : List (List Char) :=
  linesFrom [] [] cs

/-- The lines of a string, without their ends. -/
def lines (s : String) : List String :=
  (charLines s.toList).map String.ofList

end Conductor.Text
