import Conductor.Text.Utf8

/-!
Text in any of the Unicode transport forms. The form of a document is told from its byte order
mark or, without one, from the places of zero bytes among its first four, since the first two
characters of a document are ASCII.
-/

namespace Conductor.Transport

/-- The transport forms. A form that is marked starts with a byte order mark to leave out. -/
inductive Form where
  | utf8 (marked : Bool)
  | utf16 (bigEndian marked : Bool)
  | utf32 (bigEndian marked : Bool)
  deriving DecidableEq, Repr

/-- The form of a document without a byte order mark. -/
def formOfZeros : Bytes → Form
  | a :: b :: c :: d :: _ =>
    if a = 0 then if b = 0 then .utf32 true false else .utf16 true false
    else if b = 0 then if c = 0 ∧ d = 0 then .utf32 false false else .utf16 false false
    else .utf8 false
  | [a, b] =>
    if a = 0 then .utf16 true false
    else if b = 0 then .utf16 false false
    else .utf8 false
  | _ => .utf8 false

/-- The form of a document. The marks are tried in this order, since some begin as others do. -/
def formOf (bytes : Bytes) : Form :=
  if [0x00, 0x00, 0xFE, 0xFF].isPrefixOf bytes then .utf32 true true
  else if [0xFF, 0xFE, 0x00, 0x00].isPrefixOf bytes then .utf32 false true
  else if [0xFE, 0xFF].isPrefixOf bytes then .utf16 true true
  else if [0xFF, 0xFE].isPrefixOf bytes then .utf16 false true
  else if [0xEF, 0xBB, 0xBF].isPrefixOf bytes then .utf8 true
  else formOfZeros bytes

/-- The sixteen bit words of a byte string, in reverse; none for an odd number of bytes. -/
def words16? (bigEndian : Bool) (done : List Nat) : Bytes → Option (List Nat)
  | [] => some done
  | [_] => none
  | a :: b :: rest =>
    let word := if bigEndian then a.toNat * 256 + b.toNat else b.toNat * 256 + a.toNat
    words16? bigEndian (word :: done) rest

/-- The text of sixteen bit words given in reverse: a high half before a low one is joined with
it. `done` is the text of the words after these.
-/
def join16 (done : Text) : List Nat → Text
  | [] => done
  | word :: rest =>
    match TextUnit.ofCode? word, done with
    | some (.half high), .half low :: after =>
      if high.val < 1024 ∧ 1024 ≤ low.val then join16 (.char (TextUnit.join high low) :: after) rest
      else join16 (.half high :: done) rest
    | some unit, _ => join16 (unit :: done) rest
    | none, _ => join16 done rest

/-- The text of thirty-two bit words, `done` holding the units before them in reverse. -/
def decode32? (bigEndian : Bool) (done : Text) : Bytes → Option Text
  | [] => some done.reverse
  | a :: b :: c :: d :: rest =>
    let bytes := if bigEndian then [a, b, c, d] else [d, c, b, a]
    match TextUnit.ofCode? (bytes.foldl (fun n byte => n * 256 + byte.toNat) 0) with
    | some unit => decode32? bigEndian (unit :: done) rest
    | none => none
  | _ => none

/-- The text of a document in the form that its first bytes tell; none when the bytes do not
decode. Surrogate halves without a partner are kept.
-/
def decode? (bytes : Bytes) : Option Text :=
  match formOf bytes with
  | .utf8 marked => (Utf8.decodeUnits (if marked then bytes.drop 3 else bytes)).toOption
  | .utf16 bigEndian marked =>
    (words16? bigEndian [] (if marked then bytes.drop 2 else bytes)).map (join16 [])
  | .utf32 bigEndian marked => decode32? bigEndian [] (if marked then bytes.drop 4 else bytes)

end Conductor.Transport
