import Conductor.Text.Unit

/-!
Text in UTF-8. Decoding reads one byte at a time and refuses a byte as soon as no well-formed
sequence can go on with it; the refusal names the bytes read so far of the broken sequence.
-/

namespace Conductor

abbrev Bytes := List UInt8

namespace Utf8

/-- Why a byte sequence is not UTF-8. -/
inductive Flaw where
  | start
  | continuation
  | truncated
  deriving DecidableEq, Repr

/-- A broken sequence: its first byte, its place, and how many of its bytes were read. -/
structure Refusal where
  flaw : Flaw
  position : Nat
  byte : UInt8
  length : Nat
  deriving DecidableEq, Repr

/-- A sequence under way: its first byte, the number of bytes read, the code point bits so far,
the number of bytes owed, and the least and the greatest byte that may come next.
-/
structure Pending where
  first : UInt8
  read : Nat
  code : Nat
  owed : Nat
  low : Nat
  high : Nat
  deriving DecidableEq, Repr

/-- What a first byte starts: a character of its own, a longer sequence, or nothing. With
`halves`, the sequences of surrogate halves are read as well.
-/
def start? (halves : Bool) (byte : UInt8) : Option (Nat ⊕ Pending) :=
  let b := byte.toNat
  if b < 0x80 then some (.inl b)
  else if b < 0xC2 then none
  else if b < 0xE0 then some (.inr ⟨byte, 1, b - 0xC0, 1, 0x80, 0xBF⟩)
  else if b = 0xE0 then some (.inr ⟨byte, 1, 0, 2, 0xA0, 0xBF⟩)
  else if b = 0xED then some (.inr ⟨byte, 1, 13, 2, 0x80, if halves then 0xBF else 0x9F⟩)
  else if b < 0xF0 then some (.inr ⟨byte, 1, b - 0xE0, 2, 0x80, 0xBF⟩)
  else if b = 0xF0 then some (.inr ⟨byte, 1, 0, 3, 0x90, 0xBF⟩)
  else if b < 0xF4 then some (.inr ⟨byte, 1, b - 0xF0, 3, 0x80, 0xBF⟩)
  else if b = 0xF4 then some (.inr ⟨byte, 1, 4, 3, 0x80, 0x8F⟩)
  else none

/-- Adds the unit of a code point to a text in reverse. -/
def pushCode (code : Nat) (done : Text) : Text :=
  match TextUnit.ofCode? code with
  | some unit => unit :: done
  | none => done

/-- Decodes the bytes from `position` on. `pending` is the sequence under way, which started
before `position`, and `done` holds the units before it in reverse.
-/
def decodeFrom (halves : Bool) (position : Nat) (pending : Option Pending) (done : Text)
    : Bytes → Except Refusal Text
  | [] =>
    match pending with
    | none => .ok done.reverse
    | some p => .error ⟨.truncated, position - p.read, p.first, p.read⟩
  | byte :: rest =>
    match pending with
    | none =>
      match start? halves byte with
      | none => .error ⟨.start, position, byte, 1⟩
      | some (.inl code) => decodeFrom halves (position + 1) none (pushCode code done) rest
      | some (.inr p) => decodeFrom halves (position + 1) (some p) done rest
    | some p =>
      let b := byte.toNat
      if b < p.low || p.high < b then
        .error ⟨.continuation, position - p.read, p.first, p.read⟩
      else
        let code := p.code * 64 + b % 64
        if p.owed ≤ 1 then
          decodeFrom halves (position + 1) none (pushCode code done) rest
        else
          let next : Pending := ⟨p.first, p.read + 1, code, p.owed - 1, 0x80, 0xBF⟩
          decodeFrom halves (position + 1) (some next) done rest

/-- The text of a byte string, with surrogate halves allowed. -/
def decodeUnits (bytes : Bytes) : Except Refusal Text :=
  decodeFrom true 0 none [] bytes

def decode (bytes : Bytes) : Except Refusal (List Char) :=
  (decodeFrom false 0 none [] bytes).map (·.filterMap TextUnit.char?)

def encode (s : String) : Bytes :=
  s.toUTF8.toList

end Utf8

end Conductor
