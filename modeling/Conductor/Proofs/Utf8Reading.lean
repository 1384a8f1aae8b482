import Conductor.Text.Utf8

/-! Bytes that are UTF-8. The machine that decodes them takes one sequence after the other; the
sequences that it takes are those that characters are encoded in, and no others.
-/

namespace Conductor.Utf8

-----------------------------------------------------------------------------------------
-- Sequences
-----------------------------------------------------------------------------------------

/-- The sequence under way with a byte more, which is not its last one. -/
def Pending.push (p : Pending) (byte : UInt8) : Pending :=
  ⟨p.first, p.read + 1, p.code * 64 + byte.toNat % 64, p.owed - 1, 0x80, 0xBF⟩

/-- The bytes end a sequence under way, and all of it stands for a code point. -/
def Pending.Ends (code : Nat) (p : Pending) : Bytes → Prop
  | [] => False
  | byte :: rest =>
    p.low ≤ byte.toNat ∧ byte.toNat ≤ p.high
      ∧ if p.owed ≤ 1 then rest = [] ∧ p.code * 64 + byte.toNat % 64 = code
        else (p.push byte).Ends code rest

namespace Pending.Ends

variable {p : Pending} {byte : UInt8} {tail : Bytes} {code : Nat}

theorem last (owed : p.owed = 1) (low : p.low ≤ byte.toNat) (high : byte.toNat ≤ p.high)
    (sum : p.code * 64 + byte.toNat % 64 = code)
    : p.Ends code [byte] := by
  refine ⟨low, high, ?_⟩
  rw [if_pos (by omega)]
  exact ⟨rfl, sum⟩

theorem more {left : Nat} (owed : p.owed = left + 2) (low : p.low ≤ byte.toNat)
    (high : byte.toNat ≤ p.high) (after : (p.push byte).Ends code tail)
    : p.Ends code (byte :: tail) := by
  refine ⟨low, high, ?_⟩
  rwa [if_neg (by omega)]

/-- A byte that is owed alone is the last one. -/
theorem inv_last (ends : p.Ends code tail) (owed : p.owed = 1)
    : ∃ byte,
        tail = [byte]
        ∧ p.low ≤ byte.toNat
        ∧ byte.toNat ≤ p.high
        ∧ p.code * 64 + byte.toNat % 64 = code := by
  cases tail with
  | nil => cases ends
  | cons byte tail =>
      obtain ⟨low, high, after⟩ := ends
      rw [if_pos (by omega)] at after
      exact ⟨byte, after.1 ▸ rfl, low, high, after.2⟩

/-- A byte that is owed with others goes before the end of a longer sequence. -/
theorem inv_more {left : Nat} (ends : p.Ends code tail) (owed : p.owed = left + 2)
    : ∃ byte rest,
        tail = byte :: rest
        ∧ p.low ≤ byte.toNat
        ∧ byte.toNat ≤ p.high
        ∧ (p.push byte).Ends code rest := by
  cases tail with
  | nil => cases ends
  | cons byte tail =>
      obtain ⟨low, high, after⟩ := ends
      rw [if_neg (by omega)] at after
      exact ⟨byte, tail, rfl, low, high, after⟩

end Pending.Ends

/-- The bytes are one sequence, and it stands for a code point. -/
def Spells (halves : Bool) (code : Nat) : Bytes → Prop
  | [] => False
  | first :: rest =>
    match start? halves first with
    | none => False
    | some (.inl own) => rest = [] ∧ own = code
    | some (.inr p) => p.Ends code rest

variable {halves : Bool} {code position : Nat} {done text : Text}

/-- A byte that the sequence under way may go on with is its last one, or one more of it. -/
theorem decodeFrom_pending {p : Pending} {byte : UInt8} (low : p.low ≤ byte.toNat)
    (high : byte.toNat ≤ p.high) (rest : Bytes)
    : decodeFrom halves position (some p) done (byte :: rest)
      = if p.owed ≤ 1 then
          decodeFrom halves (position + 1) none (pushCode (p.code * 64 + byte.toNat % 64) done) rest
        else decodeFrom halves (position + 1) (some (p.push byte)) done rest := by
  have within : ¬(byte.toNat < p.low || p.high < byte.toNat) := by
    simp only [Bool.or_eq_true, decide_eq_true_eq]
    omega
  simp only [decodeFrom, if_neg within]
  rfl

/-- Behind the end of a sequence its code point has been read. -/
theorem decodeFrom_ends {p : Pending} {tail : Bytes} (ends : p.Ends code tail) (rest : Bytes)
    : decodeFrom halves position (some p) done (tail ++ rest)
      = decodeFrom halves (position + tail.length) none (pushCode code done) rest := by
  induction tail generalizing p position with
  | nil => cases ends
  | cons byte tail ih =>
      obtain ⟨low, high, last⟩ := ends
      rw [List.cons_append, decodeFrom_pending low high]
      split
      · rw [if_pos ‹_›] at last
        obtain ⟨rfl, rfl⟩ := last
        rfl
      · rw [if_neg ‹_›] at last
        rw [ih last, List.length_cons, Nat.add_assoc, Nat.add_comm 1]

/-- What is decoded from within a sequence begins with the end of the sequence. -/
theorem ends_of_decodeFrom {p : Pending} {bytes : Bytes}
    (read : decodeFrom halves position (some p) done bytes = .ok text)
    : ∃ tail rest code,
        bytes = tail ++ rest
        ∧ p.Ends code tail
        ∧ decodeFrom halves (position + tail.length) none (pushCode code done) rest = .ok text := by
  induction bytes generalizing p position with
  | nil => cases read
  | cons byte bytes ih =>
      have within : p.low ≤ byte.toNat ∧ byte.toNat ≤ p.high := by
        refine Decidable.byContradiction fun outside => ?_
        have broken : (byte.toNat < p.low || p.high < byte.toNat) := by
          simp only [Bool.or_eq_true, decide_eq_true_eq]
          omega
        simp only [decodeFrom, if_pos broken] at read
        cases read
      rw [decodeFrom_pending within.1 within.2] at read
      split at read
      · refine ⟨[byte], bytes, _, rfl, ⟨within.1, within.2, ?_⟩, read⟩
        rw [if_pos ‹_›]
        exact ⟨rfl, rfl⟩
      · obtain ⟨tail, rest, code, rfl, ends, after⟩ := ih read
        refine ⟨byte :: tail, rest, code, rfl, ⟨within.1, within.2, by rwa [if_neg ‹_›]⟩, ?_⟩
        rwa [List.length_cons, Nat.add_comm tail.length, ← Nat.add_assoc]

/-- Behind a sequence its code point has been read. -/
theorem decodeFrom_spells {sequence : Bytes} (spells : Spells halves code sequence) (rest : Bytes)
    : decodeFrom halves position none done (sequence ++ rest)
      = decodeFrom halves (position + sequence.length) none (pushCode code done) rest := by
  cases sequence with
  | nil => cases spells
  | cons first tail =>
      cases started : start? halves first with
      | none => simp only [Spells, started] at spells
      | some begun =>
          cases begun with
          | inl own =>
              simp only [Spells, started] at spells
              obtain ⟨rfl, rfl⟩ := spells
              simp only [List.cons_append, List.nil_append, decodeFrom, started,
                List.length_singleton]
          | inr p =>
              simp only [Spells, started] at spells
              simp only [List.cons_append, decodeFrom, started, List.length_cons]
              rw [decodeFrom_ends spells, Nat.add_assoc, Nat.add_comm 1]

/-- What is decoded begins with a sequence, unless it is at its end. -/
theorem spells_of_decodeFrom {byte : UInt8} {bytes : Bytes}
    (read : decodeFrom halves position none done (byte :: bytes) = .ok text)
    : ∃ sequence rest code,
        byte :: bytes = sequence ++ rest
        ∧ Spells halves code sequence
        ∧ decodeFrom halves (position + sequence.length) none (pushCode code done) rest
          = .ok text := by
  simp only [decodeFrom] at read
  split at read
  · cases read
  · rename_i own started
    exact ⟨[byte], bytes, own, rfl, by simp only [Spells, started, and_self], read⟩
  · rename_i p started
    obtain ⟨tail, rest, code, rfl, ends, after⟩ := ends_of_decodeFrom read
    refine ⟨byte :: tail, rest, code, rfl, by simpa only [Spells, started] using ends, ?_⟩
    rwa [List.length_cons, Nat.add_comm tail.length, ← Nat.add_assoc]

-----------------------------------------------------------------------------------------
-- Characters
-----------------------------------------------------------------------------------------

/-- A code point that is no surrogate half. -/
def IsScalar (code : Nat) : Prop :=
  code < 0xD800 ∨ 0xE000 ≤ code ∧ code < 0x110000

theorem isScalar_toNat (c : Char) : IsScalar c.toNat := by
  have valid : c.toNat < 0xD800 ∨ 0xDFFF < c.toNat ∧ c.toNat < 0x110000 := c.valid
  unfold IsScalar
  omega

theorem IsScalar.exists_char {code : Nat} (scalar : IsScalar code)
    : ∃ c : Char, c.toNat = code := by
  have valid : code.isValidChar := by
    unfold IsScalar at scalar
    unfold Nat.isValidChar
    omega
  exact ⟨Char.ofNatAux code valid, rfl⟩

theorem ofCode?_toNat (c : Char) : TextUnit.ofCode? c.toNat = some (.char c) := by
  have scalar := isScalar_toNat c
  unfold IsScalar at scalar
  rw [TextUnit.ofCode?, dif_neg (by omega), if_pos (by omega), Char.ofNat_toNat]

theorem pushCode_toNat (c : Char) (done : Text) : pushCode c.toNat done = .char c :: done := by
  rw [pushCode, ofCode?_toNat]

/-- The bytes that a code point is encoded in. -/
def codeBytes (code : Nat) : Bytes :=
  if code ≤ 0x7F then [.ofNat code]
  else if code ≤ 0x7FF then [.ofNat (code / 64 % 32 + 0xC0), .ofNat (code % 64 + 0x80)]
  else if code ≤ 0xFFFF then
    [.ofNat (code / 4096 % 16 + 0xE0), .ofNat (code / 64 % 64 + 0x80), .ofNat (code % 64 + 0x80)]
  else
    [.ofNat (code / 262144 % 8 + 0xF0), .ofNat (code / 4096 % 64 + 0x80),
      .ofNat (code / 64 % 64 + 0x80), .ofNat (code % 64 + 0x80)]

theorem utf8EncodeChar_eq (c : Char) : String.utf8EncodeChar c = codeBytes c.toNat := rfl

section Start

variable {byte : UInt8}

theorem start?_one (low : byte.toNat < 0x80) : start? halves byte = some (.inl byte.toNat) := by
  rw [start?, if_pos low]

theorem start?_two (low : 0xC2 ≤ byte.toNat) (high : byte.toNat < 0xE0)
    : start? halves byte = some (.inr ⟨byte, 1, byte.toNat - 0xC0, 1, 0x80, 0xBF⟩) := by
  rw [start?, if_neg (by omega), if_neg (by omega), if_pos high]

theorem start?_three (low : 0xE0 ≤ byte.toNat) (high : byte.toNat < 0xF0)
    : start? halves byte
      = some (.inr ⟨byte, 1, byte.toNat - 0xE0, 2, if byte.toNat = 0xE0 then 0xA0 else 0x80,
          if byte.toNat = 0xED ∧ ¬halves then 0x9F else 0xBF⟩) := by
  rw [start?, if_neg (by omega), if_neg (by omega), if_neg (by omega)]
  by_cases least : byte.toNat = 0xE0
  · simp [least]
  · by_cases surrogate : byte.toNat = 0xED
    · cases halves <;> simp [surrogate]
    · simp [least, surrogate, high]

theorem start?_four (low : 0xF0 ≤ byte.toNat) (high : byte.toNat ≤ 0xF4)
    : start? halves byte
      = some (.inr ⟨byte, 1, byte.toNat - 0xF0, 3, if byte.toNat = 0xF0 then 0x90 else 0x80,
          if byte.toNat = 0xF4 then 0x8F else 0xBF⟩) := by
  rw [start?, if_neg (by omega), if_neg (by omega), if_neg (by omega), if_neg (by omega),
    if_neg (by omega), if_neg (by omega)]
  by_cases least : byte.toNat = 0xF0
  · simp [least]
  · by_cases greatest : byte.toNat = 0xF4
    · simp [greatest]
    · rw [if_neg least, if_pos (by omega), if_neg least, if_neg greatest]

theorem start?_eq_none (outside : 0x80 ≤ byte.toNat ∧ byte.toNat < 0xC2 ∨ 0xF4 < byte.toNat)
    : start? halves byte = none := by
  rw [start?, if_neg (by omega)]
  rcases outside with ⟨_, high⟩ | low
  · rw [if_pos high]
  · rw [if_neg (by omega), if_neg (by omega), if_neg (by omega), if_neg (by omega),
      if_neg (by omega), if_neg (by omega), if_neg (by omega), if_neg (by omega)]

end Start

theorem Spells.intro {first : UInt8} {rest : Bytes} {p : Pending}
    (started : start? halves first = some (.inr p)) (ends : p.Ends code rest)
    : Spells halves code (first :: rest) := by
  simpa only [Spells, started] using ends

/-- A code point is encoded in a sequence that stands for it. -/
theorem spells_codeBytes (scalar : IsScalar code) : Spells halves code (codeBytes code) := by
  have byte (n : Nat) (small : n < 256) : (UInt8.ofNat n).toNat = n := by
    rw [UInt8.toNat_ofNat', Nat.mod_eq_of_lt small]
  have third := byte (code / 4096 % 64 + 0x80) (by omega)
  have second := byte (code / 64 % 64 + 0x80) (by omega)
  have last := byte (code % 64 + 0x80) (by omega)
  unfold IsScalar at scalar
  unfold codeBytes
  split
  · have own := byte code (by omega)
    have started : start? halves (.ofNat code) = some (.inl (UInt8.ofNat code).toNat) :=
      start?_one (by omega)
    simp only [Spells, started]
    exact ⟨trivial, own⟩
  split
  · have lead := byte (code / 64 % 32 + 0xC0) (by omega)
    refine .intro (start?_two (by omega) (by omega)) (.last rfl ?_ ?_ ?_) <;> dsimp only <;> omega
  split
  · have lead := byte (code / 4096 % 16 + 0xE0) (by omega)
    refine .intro (start?_three (by omega) (by omega)) (.more rfl ?_ ?_ (.last rfl ?_ ?_ ?_))
    · dsimp only
      split <;> omega
    · dsimp only
      split <;> omega
    all_goals
      dsimp only [Pending.push]
      omega
  · have lead := byte (code / 262144 % 8 + 0xF0) (by omega)
    refine .intro (start?_four (by omega) (by omega))
      (.more rfl ?_ ?_ (.more rfl ?_ ?_ (.last rfl ?_ ?_ ?_)))
    · dsimp only
      split <;> omega
    · dsimp only
      split <;> omega
    all_goals
      dsimp only [Pending.push]
      omega

/-- A sequence that stands for a code point is the one that the code point is encoded in. -/
theorem eq_codeBytes_of_spells {sequence : Bytes} (spells : Spells false code sequence)
    : IsScalar code ∧ sequence = codeBytes code := by
  have cons {byte : UInt8} {n : Nat} {rest others : Bytes} (number : byte.toNat = n)
    (more : rest = others)
    : byte :: rest = .ofNat n :: others := by
    rw [← number, UInt8.ofNat_toNat, more]
  unfold IsScalar codeBytes
  cases sequence with
  | nil => cases spells
  | cons first tail =>
    by_cases one : first.toNat < 0x80
    · simp only [Spells, start?_one one] at spells
      obtain ⟨rfl, rfl⟩ := spells
      refine ⟨by omega, ?_⟩
      rw [if_pos (by omega), UInt8.ofNat_toNat]
    by_cases two : 0xC2 ≤ first.toNat ∧ first.toNat < 0xE0
    · simp only [Spells, start?_two two.1 two.2] at spells
      obtain ⟨b, rfl, low, high, sum⟩ := spells.inv_last rfl
      dsimp only at low high sum
      refine ⟨by omega, ?_⟩
      rw [if_neg (by omega), if_pos (by omega)]
      exact cons (by omega) (cons (by omega) rfl)
    by_cases three : 0xE0 ≤ first.toNat ∧ first.toNat < 0xF0
    · simp only [Spells, start?_three three.1 three.2] at spells
      obtain ⟨b, rest, rfl, low, high, ends⟩ := spells.inv_more rfl
      obtain ⟨d, rfl, lower, higher, sum⟩ := ends.inv_last rfl
      dsimp only [Pending.push] at low high lower higher sum
      have least : 0x80 ≤ b.toNat ∧ (first.toNat = 0xE0 → 0xA0 ≤ b.toNat) := by
        split at low <;> omega
      have most : b.toNat ≤ 0xBF ∧ (first.toNat = 0xED → b.toNat ≤ 0x9F) := by
        simp only [Bool.false_eq_true, not_false_eq_true, and_true] at high
        split at high <;> omega
      refine ⟨by omega, ?_⟩
      rw [if_neg (by omega), if_neg (by omega), if_pos (by omega)]
      exact cons (by omega) (cons (by omega) (cons (by omega) rfl))
    by_cases four : 0xF0 ≤ first.toNat ∧ first.toNat ≤ 0xF4
    · simp only [Spells, start?_four four.1 four.2] at spells
      obtain ⟨b, rest, rfl, low, high, ends⟩ := spells.inv_more rfl
      obtain ⟨d, rest, rfl, lower, higher, more⟩ := ends.inv_more rfl
      obtain ⟨e, rfl, lowest, highest, sum⟩ := more.inv_last rfl
      dsimp only [Pending.push] at low high lower higher lowest highest sum
      have least : 0x80 ≤ b.toNat ∧ (first.toNat = 0xF0 → 0x90 ≤ b.toNat) := by
        split at low <;> omega
      have most : b.toNat ≤ 0xBF ∧ (first.toNat = 0xF4 → b.toNat ≤ 0x8F) := by
        split at high <;> omega
      refine ⟨by omega, ?_⟩
      rw [if_neg (by omega), if_neg (by omega), if_neg (by omega)]
      exact cons (by omega) (cons (by omega) (cons (by omega) (cons (by omega) rfl)))
    · have refused : start? false first = none := start?_eq_none (by omega)
      simp only [Spells, refused] at spells

-----------------------------------------------------------------------------------------
-- Texts
-----------------------------------------------------------------------------------------

theorem toList_loop (bytes : ByteArray) (i : Nat) (done : List UInt8)
    : ByteArray.toList.loop bytes i done = done.reverse ++ bytes.data.toList.drop i := by
  fun_induction ByteArray.toList.loop bytes i done with
  | case1 i done inside ih =>
      have within : i < bytes.data.toList.length := inside
      have here : bytes.get! i = bytes.data.toList[i] := getElem!_pos bytes.data i inside
      rw [ih, List.drop_eq_getElem_cons within, here, List.reverse_cons, List.append_assoc]
      rfl
  | case2 i done outside =>
      rw [List.drop_eq_nil_of_le (Nat.le_of_not_lt outside), List.append_nil]

/-- Text is encoded character by character. -/
theorem encode_eq_flatMap (s : String) : encode s = s.toList.flatMap String.utf8EncodeChar := by
  obtain ⟨chars, rfl⟩ : ∃ chars, s = String.ofList chars := ⟨s.toList, String.ofList_toList.symm⟩
  rw [encode, ByteArray.toList, toList_loop, String.toList_ofList]
  change List.drop 0 (String.ofList chars).toByteArray.data.toList = _
  rw [String.toByteArray_ofList, List.drop_zero]
  exact List.toList_data_toByteArray

/-- Behind characters that are encoded, these have been read. -/
theorem decodeFrom_chars (chars : List Char) (rest : Bytes)
    : ∃ later,
        decodeFrom halves position none done (chars.flatMap String.utf8EncodeChar ++ rest)
        = decodeFrom halves later none ((chars.map .char).reverse ++ done) rest := by
  induction chars generalizing position done with
  | nil => exact ⟨position, rfl⟩
  | cons c chars ih =>
      have spells : Spells halves c.toNat (String.utf8EncodeChar c) :=
        spells_codeBytes (isScalar_toNat c)
      obtain ⟨later, more⟩
        := @ih (position + (String.utf8EncodeChar c).length) (.char c :: done)
      refine ⟨later, ?_⟩
      rw [List.flatMap_cons, List.append_assoc, decodeFrom_spells spells, pushCode_toNat, more,
        List.map_cons, List.reverse_cons, List.append_assoc]
      rfl

/-- What is decoded is the text of characters that the bytes encode, by induction on how many bytes
are left.
-/
theorem chars_of_decodeFrom {bytes : Bytes}
    (read : decodeFrom false position none done bytes = .ok text)
    : ∃ chars : List Char,
        bytes = chars.flatMap String.utf8EncodeChar ∧ text = done.reverse ++ chars.map .char := by
  induction length : bytes.length using Nat.strongRecOn generalizing bytes position done with
  | _ count ih =>
  cases bytes with
  | nil =>
      cases read
      exact ⟨[], rfl, (List.append_nil _).symm⟩
  | cons byte bytes =>
      obtain ⟨sequence, rest, code, same, spells, after⟩ := spells_of_decodeFrom read
      obtain ⟨scalar, encoded⟩ := eq_codeBytes_of_spells spells
      obtain ⟨c, rfl⟩ := scalar.exists_char
      have shorter : rest.length < count := by
        cases sequence with
        | nil => cases spells
        | cons first tail =>
            have total := congrArg List.length same
            simp only [List.length_append, List.length_cons] at total length
            omega
      rw [pushCode_toNat] at after
      obtain ⟨chars, rfl, rfl⟩ := ih _ shorter after rfl
      refine ⟨c :: chars, by rw [same, encoded]; rfl, ?_⟩
      rw [List.reverse_cons, List.append_assoc, List.map_cons]
      rfl

/-- Characters that are encoded are read back. -/
theorem decodeFrom_encoded (chars : List Char)
    : decodeFrom halves 0 none [] (chars.flatMap String.utf8EncodeChar)
      = .ok (chars.map .char) := by
  obtain ⟨later, read⟩ := @decodeFrom_chars halves 0 [] chars []
  rw [List.append_nil, List.append_nil] at read
  rw [read]
  exact congrArg _ (List.reverse_reverse _)

/-- Bytes decode to characters exactly if the characters are encoded in them. -/
theorem decode_eq_ok_iff {bytes : Bytes} {chars : List Char}
    : decode bytes = .ok chars ↔ bytes = encode (String.ofList chars) := by
  have kept (chars : List Char) : (chars.map TextUnit.char).filterMap TextUnit.char? = chars := by
    rw [List.filterMap_map]
    exact List.filterMap_some
  rw [encode_eq_flatMap, String.toList_ofList]
  constructor
  · intro read
    unfold decode at read
    cases units : decodeFrom false 0 none [] bytes with
    | error refusal =>
        rw [units] at read
        cases read
    | ok text =>
        rw [units] at read
        cases read
        obtain ⟨chars, rfl, rfl⟩ := chars_of_decodeFrom units
        exact congrArg (List.flatMap String.utf8EncodeChar) (kept chars).symm
  · rintro rfl
    rw [decode, decodeFrom_encoded]
    exact congrArg _ (kept chars)

/-- The units of encoded text are its characters. -/
theorem decodeUnits_encode (s : String) : decodeUnits (encode s) = .ok (Text.ofString s) := by
  rw [decodeUnits, encode_eq_flatMap, decodeFrom_encoded]
  rfl

end Conductor.Utf8
