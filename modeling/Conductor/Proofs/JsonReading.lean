import Conductor.Proofs.JsonDocuments
import Conductor.Proofs.JsonLimits

/-! What is read of a document. What is written of one is read back from wherever a value may stand,
by induction on the document, unless a fault in it is met first.
-/

namespace Conductor.Json

variable {limit : Nat}

-----------------------------------------------------------------------------------------
-- Ends of numbers
-----------------------------------------------------------------------------------------

/-- The reader behind a number that is at its end, and the reader itself in all other modes. -/
def State.settled (state : State) : Except Refusal State :=
  match state.mode with
  | .number n => n.finish.map (deliver · state.stack)
  | _ => .ok state

theorem deliver_settled (value : Value Text) (stack : List Frame)
    : (deliver value stack).settled = .ok (deliver value stack) := by
  fun_cases deliver value stack <;> rfl

/-- Characters that end a number which stands before them. -/
def numberEnds : List Char := [' ', '\t', '\n', '\r', ',', ']', '\x7d']

theorem isNumeric_numberEnds : ∀ c ∈ numberEnds, isNumeric c = false := by
  have ends : numberEnds.all (!isNumeric ·) := by decide
  intro c member
  simpa using List.all_eq_true.mp ends c member

theorem isNumeric_of_digit {c : Char} (digit : Text.isAsciiDigit c) : isNumeric c := by
  simp [isNumeric, digit]

theorem isNumeric_ascii {c : Char} (numeric : isNumeric c) : c.toNat < 0x80 := by
  simp only [isNumeric, Text.isAsciiDigit, Bool.or_eq_true, Bool.and_eq_true, decide_eq_true_eq,
    beq_iff_eq] at numeric
  rcases numeric with ((((⟨_, high⟩ | rfl) | rfl) | rfl) | rfl) | rfl
  · exact Nat.lt_of_le_of_lt high (by decide)
  all_goals decide

theorem NumberState.push?_numberEnds (n : NumberState) {c : Char} (ends : c ∈ numberEnds)
    : n.push? c = none := by
  cases pushed : n.push? c with
  | none => rfl
  | some next =>
      have other := isNumeric_numberEnds c ends
      rw [push?_isNumeric pushed] at other
      cases other

/-- A number that is under way ends at a character that cannot belong to it. -/
theorem step_numberEnds (state : State) {c : Char} (ends : c ∈ numberEnds)
    : step limit state (.char c) = state.settled >>= (step limit · (.char c)) := by
  obtain ⟨stack, mode⟩ := state
  cases mode with
  | number n =>
      have other : ¬(n.part = .sign ∧ TextUnit.char c = .char 'I') := by
        rintro ⟨_, ⟨⟩⟩
        exact absurd ends (by decide)
      have delivered (value : Value Text)
        : step limit (deliver value stack) (.char c)
          = stepPlain limit (deliver value stack) (.char c) := by
        fun_cases deliver value stack <;> rfl
      have unfinished : (TextUnit.char c).char?.bind n.push? = none := n.push?_numberEnds ends
      rw [step.eq_def, State.settled]
      simp only [if_neg other, unfinished]
      cases n.finish with
      | error refusal => rfl
      | ok value => exact (delivered value).symm
  | _ => rfl

/-- A text that begins with the end of a number is read from behind the number. -/
theorem foldlM_settled (state : State) {c : Char} (ends : c ∈ numberEnds) (rest : Text)
    : (TextUnit.char c :: rest).foldlM (step limit) state
      = state.settled >>= ((TextUnit.char c :: rest).foldlM (step limit) ·) := by
  simp only [List.foldlM_cons]
  rw [step_numberEnds state ends, bind_assoc]

/-- What is read of a text, with a number at its end settled. -/
def readFrom (limit : Nat) (state : State) (text : Text) : Except Refusal State :=
  text.foldlM (step limit) state >>= State.settled

/-- Behind a text that is read, the rest is read from there. -/
theorem readFrom_append_ok {state next : State} {text : Text}
    (read : text.foldlM (step limit) state = .ok next) (rest : Text)
    : readFrom limit state (text ++ rest) = readFrom limit next rest := by
  rw [readFrom, List.foldlM_append, read]
  rfl

/-- Behind a text, one that begins with the end of a number is read from where that is settled. -/
theorem readFrom_append (state : State) (text : Text) {c : Char} (ends : c ∈ numberEnds)
    (rest : Text)
    : readFrom limit state (text ++ .char c :: rest)
      = readFrom limit state text >>= (readFrom limit · (.char c :: rest)) := by
  unfold readFrom
  rw [List.foldlM_append, bind_assoc, bind_assoc]
  congr 1
  funext next
  rw [foldlM_settled next ends rest, bind_assoc]

-----------------------------------------------------------------------------------------
-- Blanks and strings
-----------------------------------------------------------------------------------------

/-- A text of blanks. -/
def IsGap (gap : Text) : Prop :=
  ∀ unit ∈ gap, ∃ c, unit = .char c ∧ isBlank c

theorem isBlank_numberEnds {c : Char} (blank : isBlank c) : c ∈ numberEnds := by
  simp only [isBlank, Bool.or_eq_true, beq_iff_eq] at blank
  rcases blank with ((rfl | rfl) | rfl) | rfl <;> decide

theorem not_isBlank_of_isNumeric {c : Char} (numeric : isNumeric c) : ¬isBlank c := by
  intro blank
  have other := isNumeric_numberEnds c (isBlank_numberEnds blank)
  rw [numeric] at other
  cases other

/-- Blanks between other parts are passed over. -/
theorem foldlM_gap {gap : Text} (blanks : IsGap gap) {state : State}
    (between : state.mode.isBetween)
    : gap.foldlM (step limit) state = .ok state := by
  induction gap with
  | nil => rfl
  | cons unit rest ih =>
      obtain ⟨c, rfl, blank⟩ := blanks unit List.mem_cons_self
      have stays : step limit state (.char c) = .ok state := by
        obtain ⟨stack, mode⟩ := state
        cases mode with
        | string | number | word => cases between
        | _ => simp only [step, stepPlain, if_pos blank]
      rw [List.foldlM_cons, stays]
      exact ih fun unit member => blanks unit (List.mem_cons_of_mem _ member)

theorem settled_of_isBetween {state : State} (between : state.mode.isBetween)
    : state.settled = .ok state := by
  obtain ⟨stack, mode⟩ := state
  cases mode with
  | number => cases between
  | _ => rfl

theorem deliver_isBetween (value : Value Text) (stack : List Frame)
    : (deliver value stack).mode.isBetween := by
  fun_cases deliver value stack <;> rfl

/-- Blanks on both sides of a part do not count, if it leads between others. -/
theorem readFrom_padded {gap : Text} (blanks : IsGap gap) {state : State}
    (between : state.mode.isBetween) {text : Text} {result : Except Refusal State}
    (read : readFrom limit state text = result)
    (leads : ∀ next, result = .ok next → next.mode.isBetween)
    : readFrom limit state (padded gap text) = result := by
  have behind : readFrom limit state (text ++ gap) = result := by
    cases gap with
    | nil => rwa [List.append_nil]
    | cons unit rest =>
        obtain ⟨c, rfl, blank⟩ := blanks unit List.mem_cons_self
        rw [readFrom_append state text (isBlank_numberEnds blank), read]
        cases result with
        | error refusal => rfl
        | ok next =>
            have passed : (TextUnit.char c :: rest).foldlM (step limit) next = .ok next :=
              foldlM_gap blanks (leads next rfl)
            change readFrom limit next (.char c :: rest) = .ok next
            rw [readFrom, passed]
            exact settled_of_isBetween (leads next rfl)
  unfold padded readFrom
  rw [List.foldlM_append, foldlM_gap blanks between]
  exact behind

theorem hexValue?_digitChar : ∀ d < 16, Text.hexValue? d.digitChar = some d := by decide

/-- A unit of a string is read as it is written. -/
theorem foldlM_writtenUnit (stack : List Frame) (isKey joinable : Bool) (units : Text)
    (unit : TextUnit)
    : ∃ joinable',
        (writtenUnit unit).foldlM (step limit) ⟨stack, .string isKey ⟨units, .none, joinable⟩⟩
        = .ok ⟨stack, .string isKey ⟨unit :: units, .none, joinable'⟩⟩ := by
  unfold writtenUnit
  split_ifs with quoted control
  · refine ⟨false, ?_⟩
    rcases quoted with rfl | rfl <;> rfl
  · obtain ⟨c, rfl⟩ : ∃ c, unit = .char c := by
      cases unit with
      | char c => exact ⟨c, rfl⟩
      | half index =>
          simp only [TextUnit.code] at control
          omega
    have code : c.toNat / 16 * 16 + c.toNat % 16 = c.toNat := by omega
    have small : c.toNat < 0x20 := control
    have unit : TextUnit.ofCode? c.toNat = some (.char c) := by
      rw [TextUnit.ofCode?, dif_neg (by omega), if_pos (by omega), Char.ofNat_toNat]
    have high := hexValue?_digitChar (c.toNat / 16) (by omega)
    have low := hexValue?_digitChar (c.toNat % 16) (by omega)
    have zero : Text.hexValue? '0' = some 0 := by decide
    refine ⟨false, ?_⟩
    simp [step, stepPlain, StringState.push, StringState.pushEscape, TextUnit.code, TextUnit.char?,
      TextUnit.isHighHalf, high, low, zero, code, unit, bind, Except.bind, pure, Except.pure]
  · refine ⟨false, ?_⟩
    simp only [not_or] at quoted
    simp [step, stepPlain, StringState.push, quoted, control, bind, Except.bind, pure, Except.pure]

theorem foldlM_writtenUnits (stack : List Frame) (isKey joinable : Bool) (units s : Text)
    : ∃ joinable',
        (s.flatMap writtenUnit).foldlM (step limit) ⟨stack, .string isKey ⟨units, .none, joinable⟩⟩
        = .ok ⟨stack, .string isKey ⟨s.reverse ++ units, .none, joinable'⟩⟩ := by
  induction s generalizing units joinable with
  | nil => exact ⟨joinable, rfl⟩
  | cons unit rest ih =>
      obtain ⟨mid, first⟩ := foldlM_writtenUnit stack isKey joinable units unit
      obtain ⟨last, more⟩ := ih mid (unit :: units)
      refine ⟨last, ?_⟩
      rw [List.flatMap_cons, List.foldlM_append, first, List.reverse_cons, List.append_assoc]
      exact more

/-- A string that is written is read back, from where its quote opens it. -/
theorem foldlM_written {state : State} {stack : List Frame} (isKey : Bool) (s : Text)
    (opens : step limit state (.char '"') = .ok ⟨stack, .string isKey .start⟩)
    : (written s).foldlM (step limit) state
      = if isKey then deliverKey s stack else .ok (deliver (.str s) stack) := by
  obtain ⟨joinable, units⟩ := foldlM_writtenUnits stack isKey false [] s
  have closes (joinable : Bool)
    : step limit ⟨stack, .string isKey ⟨s.reverse, .none, joinable⟩⟩ (.char '"')
      = if isKey then deliverKey s stack else .ok (deliver (.str s) stack) := by
    simp [step, stepPlain, StringState.push, bind, Except.bind]
  rw [written, List.foldlM_cons, opens]
  change (s.flatMap writtenUnit ++ [_]).foldlM (step limit)
    ⟨stack, .string isKey ⟨[], .none, false⟩⟩ = _
  rw [List.foldlM_append, units, List.append_nil]
  exact (bind_pure _).trans (closes joinable)

-----------------------------------------------------------------------------------------
-- Numbers
-----------------------------------------------------------------------------------------

def Fault.refusal : Fault → Refusal
  | .longNumber digits => .longNumber digits
  | .tooDeep => .tooDeep

/-- What is delivered to a stack, unless a fault comes before. -/
def outcome (value : Value Text) (stack : List Frame) : Option Fault → Except Refusal State
  | none => .ok (deliver value stack)
  | some fault => .error fault.refusal

theorem outcome_isBetween {value : Value Text} {stack : List Frame} {fault? : Option Fault}
    {next : State} (same : outcome value stack fault? = .ok next)
    : next.mode.isBetween := by
  cases fault? with
  | some fault => cases same
  | none =>
      cases same
      exact deliver_isBetween value stack

/-- Characters that go on with a number are read as such. -/
theorem foldlM_number (stack : List Frame) {n last : NumberState} {chars : List Char}
    (pushed : chars.foldlM NumberState.push? n = some last)
    : (chars.map .char).foldlM (step limit) ⟨stack, .number n⟩ = .ok ⟨stack, .number last⟩ := by
  induction chars generalizing n with
  | nil =>
      cases pushed
      rfl
  | cons c rest ih =>
      rw [List.foldlM_cons] at pushed
      obtain ⟨mid, first, more⟩ := Option.bind_eq_some_iff.mp pushed
      have digit : step limit ⟨stack, .number n⟩ (.char c) = .ok ⟨stack, .number mid⟩ := by
        have other : ¬(n.part = .sign ∧ TextUnit.char c = .char 'I') := by
          rintro ⟨_, ⟨⟩⟩
          exact absurd (NumberState.push?_isNumeric first) (by decide)
        simp only [step, if_neg other, TextUnit.char?, Option.bind_some, first]
      rw [List.map_cons, List.foldlM_cons, digit]
      exact ih more

/-- Digits that each are added to the same part of a number are all added to it. -/
theorem foldlM_digits (state : List Char → NumberState)
    (adds
      : ∀ c done, Text.isAsciiDigit c → (state done).push? c = some (state (c :: done)))
    {digits : List Char} (all : ∀ c ∈ digits, Text.isAsciiDigit c) (done : List Char)
    : digits.foldlM NumberState.push? (state done) = some (state (digits.reverse ++ done)) := by
  induction digits generalizing done with
  | nil => rfl
  | cons c rest ih =>
      have others : ∀ d ∈ rest, Text.isAsciiDigit d :=
        fun d member => all d (List.mem_cons_of_mem _ member)
      rw [List.foldlM_cons, adds c done (all c List.mem_cons_self), List.reverse_cons,
        List.append_assoc]
      exact ih others (c :: done)

namespace Numeral

variable (n : Numeral)

/-- The number that is under way behind the whole part. -/
def afterWhole : NumberState :=
  ⟨if n.whole = ['0'] then .zero else .whole, n.negative, n.whole.reverse, [], false, []⟩

/-- The number that is under way behind the fraction, if there is one. -/
def afterFraction : NumberState :=
  if n.fraction.isEmpty then n.afterWhole
  else { n.afterWhole with part := .fraction, fraction := n.fraction.reverse }

/-- The number that is under way behind the power, if there is one. -/
def afterPower : NumberState :=
  match n.power with
  | none => n.afterFraction
  | some (negative, digits) => { n.afterFraction with
      part := .powerDigits, powerNegative := negative, power := digits.reverse }

theorem whole_cons : ∃ c rest, n.whole = c :: rest := by
  rcases n.whole_leads with zero | ⟨c, rest, same, _⟩
  · exact ⟨_, _, zero⟩
  · exact ⟨c, rest, same⟩

/-- A digit begins a number. -/
theorem beginValue_digit {c : Char} (digit : Text.isAsciiDigit c) (stack : List Frame)
    : beginValue limit c stack = .ok ⟨stack, .number (.firstDigit false c)⟩ := by
  have other : c ≠ '"' ∧ c ≠ '[' ∧ c ≠ '\x7b' ∧ c ≠ '-' := by
    refine ⟨?_, ?_, ?_, ?_⟩ <;> rintro rfl <;> cases digit
  rw [beginValue, if_neg other.1, if_neg other.2.1, if_neg other.2.2.1, if_neg other.2.2.2,
    if_pos digit]

/-- The sign and the whole part of a number are read as they are written. -/
theorem foldlM_whole (stack : List Frame)
    : (n.wholeChars.map .char).foldlM (step limit) ⟨stack, .value⟩
      = .ok ⟨stack, .number n.afterWhole⟩ := by
  obtain ⟨c, rest, same⟩ := n.whole_cons
  have digits := List.forall_mem_cons.mp (same ▸ n.whole_digits)
  have more : rest.foldlM NumberState.push? (.firstDigit n.negative c) = some n.afterWhole := by
    by_cases zero : c = '0'
    · have alone : rest = [] := by
        rcases n.whole_leads with only | ⟨d, tail, split, other⟩
        · rw [same] at only
          exact (List.cons.inj only).2
        · rw [same] at split
          exact absurd ((List.cons.inj split).1 ▸ zero) other
      subst alone zero
      rw [afterWhole, same]
      rfl
    · have pushed := foldlM_digits (fun done => ⟨.whole, n.negative, done, [], false, []⟩)
        (fun d done digit => by simp [NumberState.push?, digit]) digits.2 [c]
      have other : c :: rest ≠ ['0'] := fun equal => zero (List.cons.inj equal).1
      rw [NumberState.firstDigit, if_neg zero, pushed, afterWhole, same, if_neg other,
        List.reverse_cons]
  have unblank : ¬isBlank c := not_isBlank_of_isNumeric (isNumeric_of_digit digits.1)
  have run
    : (rest.map .char).foldlM (step limit) ⟨stack, .number (.firstDigit n.negative c)⟩
      = .ok ⟨stack, .number n.afterWhole⟩ :=
    foldlM_number stack more
  rw [wholeChars, same]
  cases negative : n.negative with
  | false =>
      have begun : step limit ⟨stack, .value⟩ (.char c)
        = .ok ⟨stack, .number (.firstDigit false c)⟩ := by
        simp only [step, stepPlain, if_neg unblank, beginValue_digit digits.1]
      rw [negative] at run
      simp only [Bool.false_eq_true, if_false, List.nil_append, List.map_cons, List.foldlM_cons,
        begun]
      exact run
  | true =>
      have first : NumberState.minus.push? c = some (.firstDigit true c) := by
        simp [NumberState.push?, NumberState.minus, digits.1]
      have pushed : (c :: rest).foldlM NumberState.push? .minus = some n.afterWhole := by
        rw [List.foldlM_cons, first, ← negative]
        exact more
      exact foldlM_number stack pushed

theorem chars_head : ∃ c rest, n.chars = c :: rest ∧ isNumeric c := by
  unfold chars wholeChars
  cases n.negative with
  | true => exact ⟨'-', _, rfl, by decide⟩
  | false =>
      obtain ⟨c, rest, same⟩ := n.whole_cons
      refine ⟨c, _, by rw [same]; rfl, isNumeric_of_digit (n.whole_digits c ?_)⟩
      rw [same]
      exact List.mem_cons_self

/-- The fraction of a number is read as it is written. -/
theorem pushes_fraction
    : n.fractionChars.foldlM NumberState.push? n.afterWhole = some n.afterFraction := by
  unfold afterFraction fractionChars
  cases same : n.fraction with
  | nil => rfl
  | cons c rest =>
      have digits := List.forall_mem_cons.mp (same ▸ n.fraction_digits)
      have point : n.afterWhole.push? '.' = some { n.afterWhole with part := .point } := by
        unfold afterWhole
        split <;> rfl
      have first
        : NumberState.push? { n.afterWhole with part := .point } c
          = some { n.afterWhole with part := .fraction, fraction := [c] } := by
        simp [NumberState.push?, digits.1]
      have more := foldlM_digits
        (fun done => { n.afterWhole with part := .fraction, fraction := done })
        (fun d done digit => by simp [NumberState.push?, digit]) digits.2 [c]
      simp only [List.isEmpty_cons, Bool.false_eq_true, if_false, List.foldlM_cons, point, first,
        Option.bind_eq_bind, Option.bind_some]
      rw [more, List.reverse_cons]

/-- The power of a number is read as it is written. -/
theorem pushes_power
    : n.powerChars.foldlM NumberState.push? n.afterFraction = some n.afterPower := by
  unfold afterPower powerChars
  cases same : n.power with
  | none => rfl
  | some power =>
      obtain ⟨negative, digits⟩ := power
      obtain ⟨nonempty, all⟩ := n.power_digits negative digits same
      obtain ⟨c, rest, rfl⟩ := List.exists_cons_of_ne_nil nonempty
      have digits := List.forall_mem_cons.mp all
      have letter : n.afterFraction.push? 'e' = some { n.afterFraction with part := .power } := by
        unfold afterFraction afterWhole
        split_ifs <;> rfl
      have more := foldlM_digits
        (fun done =>
          { n.afterFraction with part := .powerDigits, powerNegative := negative, power := done })
        (fun d done digit => by simp [NumberState.push?, digit]) digits.2 [c]
      have nothing : n.afterFraction.power = [] ∧ n.afterFraction.powerNegative = false := by
        unfold afterFraction afterWhole
        split_ifs <;> exact ⟨rfl, rfl⟩
      cases negative with
      | false =>
          have first
            : NumberState.push? { n.afterFraction with part := .power } c
              = some { n.afterFraction with
                  part := .powerDigits, powerNegative := false, power := [c] } := by
            simp [NumberState.push?, digits.1, nothing]
          simp [letter, first, more]
      | true =>
          have sign
            : NumberState.push? { n.afterFraction with part := .power } '-'
              = some { n.afterFraction with part := .powerSign, powerNegative := true } := rfl
          have first
            : NumberState.push?
                { n.afterFraction with part := .powerSign, powerNegative := true } c
              = some { n.afterFraction with
                  part := .powerDigits, powerNegative := true, power := [c] } := by
            simp [NumberState.push?, digits.1, nothing]
          simp [letter, sign, first, more]

/-- A number comes to its value at its end, or to its fault. -/
theorem afterPower_finish
    : n.afterPower.finish
      = match n.fault? with
        | none => .ok n.value
        | some fault => .error fault.refusal := by
  cases power : n.power with
  | some scale =>
      have fault : n.fault? = none := by simp [fault?, isWhole, power]
      simp only [afterPower, afterFraction, afterWhole, fault, value, isWhole, power,
        NumberState.finish, NumberState.toFloat]
      cases n.fraction <;> simp
  | none =>
      cases fraction : n.fraction with
      | cons c rest =>
          have fault : n.fault? = none := by simp [fault?, isWhole, fraction]
          simp [afterPower, afterFraction, afterWhole, fault, value, isWhole, power, fraction,
            NumberState.finish, NumberState.toFloat, Text.digitsValue]
      | nil =>
          have whole : n.isWhole := by simp [isWhole, power, fraction]
          have read : n.afterPower = n.afterWhole := by
            simp [afterPower, afterFraction, power, fraction]
          have part : n.afterWhole.part = .zero ∨ n.afterWhole.part = .whole := by
            unfold afterWhole
            split
            · exact .inl rfl
            · exact .inr rfl
          have digits
            : n.afterWhole.whole = n.whole.reverse ∧ n.afterWhole.fraction = []
              ∧ n.afterWhole.negative = n.negative :=
            ⟨rfl, rfl, rfl⟩
          by_cases exceeds : maxDigits < n.whole.length <;> rcases part with part | part <;>
            simp [read, NumberState.finish, part, digits, exceeds, fault?, whole, value,
              Fault.refusal]

/-- A number is read back from how it is written. -/
theorem readFrom_chars (stack : List Frame)
    : readFrom limit ⟨stack, .value⟩ (n.chars.map .char) = outcome n.value stack n.fault? := by
  have parts
    : (n.wholeChars.map .char).foldlM (step limit) ⟨stack, .value⟩
      = .ok ⟨stack, .number n.afterWhole⟩ :=
    n.foldlM_whole stack
  have fraction
    : (n.fractionChars.map .char).foldlM (step limit) ⟨stack, .number n.afterWhole⟩
      = .ok ⟨stack, .number n.afterFraction⟩ :=
    foldlM_number stack n.pushes_fraction
  have power
    : (n.powerChars.map .char).foldlM (step limit) ⟨stack, .number n.afterFraction⟩
      = .ok ⟨stack, .number n.afterPower⟩ :=
    foldlM_number stack n.pushes_power
  have ends : readFrom limit ⟨stack, .number n.afterPower⟩ [] = outcome n.value stack n.fault? := by
    change n.afterPower.finish.map (deliver · stack) = _
    rw [afterPower_finish]
    cases n.fault? <;> rfl
  rw [chars, List.append_assoc, List.map_append, readFrom_append_ok parts, List.map_append,
    readFrom_append_ok fraction, ← ends, ← readFrom_append_ok power [], List.append_nil]

end Numeral

-----------------------------------------------------------------------------------------
-- Reading
-----------------------------------------------------------------------------------------

namespace Document

/-- A text behind which a value is delivered leaves nothing to be settled. -/
theorem readFrom_delivered {state : State} {text : Text} {value : Value Text} {stack : List Frame}
    (read : text.foldlM (step limit) state = .ok (deliver value stack))
    : readFrom limit state text = .ok (deliver value stack) := by
  rw [readFrom, read]
  exact deliver_settled value stack

/-- A word is read as the constant that it means. -/
theorem foldlM_constant (stack : List Frame)
    : (Text.ofString "null").foldlM (step limit) ⟨stack, .value⟩ = .ok (deliver .null stack)
      ∧ (Text.ofString "true").foldlM (step limit) ⟨stack, .value⟩
        = .ok (deliver (.bool true) stack)
      ∧ (Text.ofString "false").foldlM (step limit) ⟨stack, .value⟩
        = .ok (deliver (.bool false) stack) :=
  ⟨rfl, rfl, rfl⟩

/-- A bracket opens a level, or it is one too many. -/
theorem readFrom_open {c : Char} {frame : Frame} {mode : Mode} {stack : List Frame}
    (opens : step limit ⟨stack, .value⟩ (.char c) = openFrame limit frame mode stack) {rest : Text}
    {value : Value Text} {fault? : Option Fault}
    (read : readFrom limit ⟨frame :: stack, mode⟩ rest = outcome value stack fault?)
    : readFrom limit ⟨stack, .value⟩ (.char c :: rest)
      = outcome value stack (if limit ≤ stack.length then some .tooDeep else fault?) := by
  by_cases full : limit ≤ stack.length
  · rw [if_pos full, readFrom, List.foldlM_cons, opens, openFrame, if_pos full]
    rfl
  · rw [if_neg full, readFrom, List.foldlM_cons, opens, openFrame, if_neg full]
    exact read

/-- A value whose first part is delivered goes on behind that part; it breaks off with either. -/
theorem readFrom_then {state : State} {text rest : Text} {value whole : Value Text}
    {frame : Frame} {stack : List Frame} {first more : Option Fault}
    (read : readFrom limit state text = outcome value (frame :: stack) first)
    (ends : ∃ c tail, rest = .char c :: tail ∧ c ∈ numberEnds)
    (behind : readFrom limit (deliver value (frame :: stack)) rest = outcome whole stack more)
    : readFrom limit state (text ++ rest) = outcome whole stack (first.or more) := by
  obtain ⟨c, tail, rfl, member⟩ := ends
  rw [readFrom_append state text member, read]
  cases first with
  | none => exact behind
  | some fault => rfl

theorem moreItems_ends (gap : Text) (items : List Document)
    : ∃ c tail, moreItems gap items = .char c :: tail ∧ c ∈ numberEnds := by
  cases items with
  | nil => exact ⟨']', _, moreItems.eq_1 gap, by decide⟩
  | cons item rest => exact ⟨',', _, moreItems.eq_2 gap item rest, by decide⟩

theorem moreEntries_ends (gap : Text) (entries : List (Text × Document))
    : ∃ c tail, moreEntries gap entries = .char c :: tail ∧ c ∈ numberEnds := by
  cases entries with
  | nil => exact ⟨'\x7d', _, moreEntries.eq_1 gap, by decide⟩
  | cons entry rest => exact ⟨',', _, moreEntries.eq_2 gap entry.1 entry.2 rest, by decide⟩

/-- The first character of a document is ASCII, and neither a blank nor a closing bracket. -/
theorem core_head (gap : Text) (document : Document)
    : ∃ c rest, document.core gap = .char c :: rest ∧ ¬isBlank c ∧ c ≠ ']' ∧ c.toNat < 0x80 := by
  cases document with
  | null => exact ⟨'n', _, by rw [core]; rfl, by decide⟩
  | bool b =>
      cases b with
      | true => exact ⟨'t', _, by rw [core]; rfl, by decide⟩
      | false => exact ⟨'f', _, by rw [core]; rfl, by decide⟩
  | number n =>
      obtain ⟨c, rest, same, numeric⟩ := n.chars_head
      refine ⟨c, rest.map .char, by rw [core, same, List.map_cons],
        not_isBlank_of_isNumeric numeric, ?_, isNumeric_ascii numeric⟩
      rintro rfl
      cases numeric
  | str s => exact ⟨'"', _, by rw [core]; rfl, by decide⟩
  | list items =>
      cases items with
      | nil => exact ⟨'[', _, by rw [core], by decide⟩
      | cons item rest => exact ⟨'[', _, by rw [core], by decide⟩
  | table entries =>
      cases entries with
      | nil => exact ⟨'\x7b', _, by rw [core], by decide⟩
      | cons entry rest => exact ⟨'\x7b', _, by rw [core], by decide⟩

/-- The first item of a list is read as any other value. -/
theorem readFrom_firstItem {gap : Text} (blanks : IsGap gap) (document : Document)
    (stack : List Frame)
    : readFrom limit ⟨stack, .firstItem⟩ (document.text gap)
      = readFrom limit ⟨stack, .value⟩ (document.text gap) := by
  obtain ⟨c, rest, same, unblank, other, _⟩ := core_head gap document
  have first : step limit ⟨stack, .firstItem⟩ (.char c) = step limit ⟨stack, .value⟩ (.char c) := by
    simp only [step, stepPlain, if_neg unblank, if_neg other]
  unfold text padded
  rw [readFrom_append_ok (foldlM_gap blanks rfl), readFrom_append_ok (foldlM_gap blanks rfl), same]
  simp only [readFrom, List.cons_append, List.foldlM_cons, first]

/-- A key is read between blanks, with the colon behind it. -/
theorem foldlM_key {gap : Text} (blanks : IsGap gap) {state : State} {entries : Table Text}
    {before : Text} {stack : List Frame} (between : state.mode.isBetween)
    (opens
      : step limit state (.char '"') = .ok ⟨.table entries before :: stack, .string true .start⟩)
    (key : Text)
    : (padded gap (written key) ++ [TextUnit.char ':']).foldlM (step limit) state
      = .ok ⟨.table entries key :: stack, .value⟩ := by
  have read : (written key).foldlM (step limit) state = .ok ⟨.table entries key :: stack, .colon⟩ :=
    foldlM_written true key opens
  have passes
    : gap.foldlM (step limit) ⟨.table entries key :: stack, .colon⟩
      = .ok ⟨.table entries key :: stack, .colon⟩ :=
    foldlM_gap blanks rfl
  simp only [padded, List.foldlM_append, foldlM_gap blanks between, read, passes, bind, Except.bind]
  rfl

/-- Blanks alone are read up to the bracket that closes what has just been opened. -/
theorem readFrom_empty {gap : Text} (blanks : IsGap gap) {state : State}
    (between : state.mode.isBetween) {c : Char} {value : Value Text} {stack : List Frame}
    (closes : step limit state (.char c) = .ok (deliver value stack))
    : readFrom limit state (gap ++ [.char c]) = .ok (deliver value stack) := by
  rw [readFrom_append_ok (foldlM_gap blanks between)]
  exact readFrom_delivered ((bind_pure _).trans closes)

mutual

/-- A document is read back from how it is written, or its first fault is met. -/
theorem readFrom_text {gap : Text} (blanks : IsGap gap) (document : Document)
    (stack : List Frame)
    : readFrom limit ⟨stack, .value⟩ (document.text gap)
      = outcome document.value stack (document.fault? limit stack.length) := by
  refine readFrom_padded blanks rfl ?_ fun next same => outcome_isBetween same
  cases document with
  | null =>
      simp only [core, value, fault?]
      exact readFrom_delivered (foldlM_constant stack).1
  | bool b =>
      cases b with
      | true =>
          simp only [core, value, fault?]
          exact readFrom_delivered (foldlM_constant stack).2.1
      | false =>
          simp only [core, value, fault?]
          exact readFrom_delivered (foldlM_constant stack).2.2
  | number n =>
      simp only [core, value, fault?]
      exact n.readFrom_chars stack
  | str s =>
      simp only [core, value, fault?]
      exact readFrom_delivered (foldlM_written false s rfl)
  | list items =>
      cases items with
      | nil =>
          simp only [core, value, values, fault?, itemsFault?]
          exact readFrom_open rfl (readFrom_empty blanks rfl rfl)
      | cons item rest =>
          have first := readFrom_text blanks item (.list [] :: stack)
          rw [← readFrom_firstItem blanks] at first
          have more := readFrom_moreItems blanks rest [item.value] stack
          simp only [core, value, values, fault?, itemsFault?]
          exact readFrom_open rfl (readFrom_then first (moreItems_ends gap rest) more)
  | table entries =>
      cases entries with
      | nil =>
          simp only [core, value, bindings, fault?, entriesFault?]
          exact readFrom_open rfl (readFrom_empty blanks rfl rfl)
      | cons entry rest =>
          obtain ⟨key, document⟩ := entry
          have keyed
            : (padded gap (written key) ++ [TextUnit.char ':']).foldlM (step limit)
                ⟨.table [] [] :: stack, .firstKey⟩
              = .ok ⟨.table [] key :: stack, .value⟩ :=
            foldlM_key blanks rfl rfl key
          have first := readFrom_text blanks document (.table [] key :: stack)
          have more := readFrom_moreEntries blanks rest [(key, document.value)] [] stack
          have whole := readFrom_then first (moreEntries_ends gap rest) more
          simp only [core, value, bindings, fault?, entriesFault?]
          refine readFrom_open rfl ?_
          rw [List.append_cons, readFrom_append_ok keyed]
          exact whole

/-- The items behind others are read into the same list, to the bracket that closes it. -/
theorem readFrom_moreItems {gap : Text} (blanks : IsGap gap) (items : List Document)
    (done : List (Value Text)) (stack : List Frame)
    : readFrom limit ⟨.list done :: stack, .next⟩ (moreItems gap items)
      = outcome (.list (done.reverse ++ values items)) stack
          (itemsFault? limit (stack.length + 1) items) := by
  cases items with
  | nil =>
      simp only [moreItems, values, itemsFault?, List.append_nil]
      exact readFrom_delivered rfl
  | cons item rest =>
      have first := readFrom_text blanks item (.list done :: stack)
      have more := readFrom_moreItems blanks rest (item.value :: done) stack
      rw [List.reverse_cons, List.append_assoc] at more
      have whole := readFrom_then first (moreItems_ends gap rest) more
      simp only [moreItems, values, itemsFault?]
      exact whole

/-- The entries behind others are read into the same table, to the bracket that closes it. -/
theorem readFrom_moreEntries {gap : Text} (blanks : IsGap gap) (entries : List (Text × Document))
    (done : Table Text) (key : Text) (stack : List Frame)
    : readFrom limit ⟨.table done key :: stack, .next⟩ (moreEntries gap entries)
      = outcome (.table (Assoc.insertAll done (bindings entries))) stack
          (entriesFault? limit (stack.length + 1) entries) := by
  cases entries with
  | nil =>
      simp only [moreEntries, bindings, entriesFault?]
      exact readFrom_delivered rfl
  | cons entry rest =>
      obtain ⟨next, document⟩ := entry
      have keyed
        : (padded gap (written next) ++ [TextUnit.char ':']).foldlM (step limit)
            ⟨.table done key :: stack, .nextKey⟩
          = .ok ⟨.table done next :: stack, .value⟩ :=
        foldlM_key blanks rfl rfl next
      have first := readFrom_text blanks document (.table done next :: stack)
      have more := readFrom_moreEntries blanks rest (done.insert next document.value) [] stack
      have whole := readFrom_then first (moreEntries_ends gap rest) more
      simp only [moreEntries, bindings, entriesFault?]
      change readFrom limit ⟨.table done key :: stack, .nextKey⟩ _ = _
      rw [List.append_cons, readFrom_append_ok keyed]
      exact whole

end

/-- The root of a document that is written is what it says, unless a fault stands in it. -/
theorem read_text {gap : Text} (blanks : IsGap gap) (document : Document)
    : read limit (document.text gap)
      = match document.fault? limit 0 with
        | none => .ok document.value
        | some fault => .error fault.refusal := by
  have ended (state : State) : state.finish = state.settled >>= State.finish := by
    obtain ⟨stack, mode⟩ := state
    cases mode with
    | number n =>
        cases ended : n.finish with
        | error refusal =>
            simp only [State.finish, State.settled, ended]
            rfl
        | ok value =>
            simp only [State.finish, State.settled, ended]
            fun_cases deliver value stack <;> rfl
    | _ => rfl
  have whole
    : readFrom limit ⟨[], .value⟩ (document.text gap)
      = outcome document.value [] (document.fault? limit 0) :=
    readFrom_text blanks document []
  unfold read
  rw [funext ended, ← bind_assoc]
  change readFrom limit ⟨[], .value⟩ (document.text gap) >>= _ = _
  rw [whole]
  cases document.fault? limit 0 <;> rfl

/-- What is written of a document is answered as the document is. -/
theorem readTable_text {gap : Text} (blanks : IsGap gap) (document : Document)
    : readTable limit (document.text gap) = document.answer limit := by
  rw [readTable, read_text blanks, answer]
  cases document.fault? limit 0 with
  | none => rfl
  | some fault => cases fault <;> rfl

end Document

end Conductor.Json
