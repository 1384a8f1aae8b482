import Conductor.Json.Reader
import Mathlib.Data.List.Infix
import Mathlib.Tactic.SplitIfs

/-! Which payloads are not answered. The reader of a document keeps no more than the brackets that
are open; it breaks off at a bracket that opens one too many, or behind a whole number with too many
digits, and at nothing else.
-/

namespace Conductor.Json

variable {limit : Nat}

-----------------------------------------------------------------------------------------
-- Nesting
-----------------------------------------------------------------------------------------

/-- Where a place in a text is: how many brackets are open there, whether it is within a string, and
whether it is right behind a backslash in it.
-/
structure Nesting where
  depth : Nat
  inString : Bool
  escaped : Bool
  deriving DecidableEq, Repr

namespace Nesting

def start : Nesting := ⟨0, false, false⟩

/-- The place behind one unit more. Brackets within strings do not count. -/
def push (place : Nesting) (unit : TextUnit) : Nesting :=
  if place.inString then
    if place.escaped then { place with escaped := false }
    else if unit = .char '"' then { place with inString := false }
    else if unit = .char '\\' then { place with escaped := true }
    else place
  else if unit = .char '"' then { place with inString := true }
  else if unit = .char '[' ∨ unit = .char '\x7b' then { place with depth := place.depth + 1 }
  else if unit = .char ']' ∨ unit = .char '\x7d' then { place with depth := place.depth - 1 }
  else place

end Nesting

/-- The number of brackets that are open behind a text. -/
def depth (text : Text) : Nat :=
  (text.foldl Nesting.push .start).depth

/-- The place that a reader is at. -/
def State.nesting (state : State) : Nesting :=
  match state.mode with
  | .string _ s => ⟨state.stack.length, true, s.escape = .open⟩
  | _ => ⟨state.stack.length, false, false⟩

theorem deliver_nesting (value : Value Text) (stack : List Frame)
    : (deliver value stack).nesting = ⟨stack.length, false, false⟩ := by
  fun_cases deliver value stack <;> rfl

/-- The characters that count for the place in a text outside of strings. -/
def marks : List Char := ['"', '[', '\x7b', ']', '\x7d']

/-- Outside of strings all other units leave the place as it is. -/
theorem Nesting.push_other {unit : TextUnit} (depth : Nat)
    (other : ∀ c ∈ marks, unit ≠ .char c)
    : Nesting.push ⟨depth, false, false⟩ unit = ⟨depth, false, false⟩ := by
  simp only [marks, List.mem_cons, List.not_mem_nil, or_false, forall_eq_or_imp, forall_eq] at other
  obtain ⟨quote, list, table, listEnd, tableEnd⟩ := other
  simp [Nesting.push, quote, list, table, listEnd, tableEnd]

/-- A character of a kind that no mark is of leaves the place as it is. -/
theorem Nesting.push_of_kind {c : Char} (kind : Char → Bool) (depth : Nat) (holds : kind c)
    (marked : marks.all (!kind ·) := by decide)
    : Nesting.push ⟨depth, false, false⟩ (.char c) = ⟨depth, false, false⟩ := by
  refine push_other depth ?_
  rintro d member ⟨⟩
  have other := List.all_eq_true.mp marked c member
  rw [holds] at other
  cases other

/-- What a character begins at which a value is expected: nothing, a level more unless too many are
open, a number, or a word in letters.
-/
inductive Begins (limit : Nat) (stack : List Frame) : Char → Except Refusal State → Prop where
  | malformed {c} : Begins limit stack c (.error .malformed)
  | tooDeep {c} (bracket : c = '[' ∨ c = '\x7b') (full : limit ≤ stack.length)
    : Begins limit stack c (.error .tooDeep)
  | list : Begins limit stack '[' (.ok ⟨.list [] :: stack, .firstItem⟩)
  | table : Begins limit stack '\x7b' (.ok ⟨.table [] [] :: stack, .firstKey⟩)
  | string : Begins limit stack '"' (.ok ⟨stack, .string false .start⟩)
  | minus : Begins limit stack '-' (.ok ⟨stack, .number .minus⟩)
  | digit {c} (digit : Text.isAsciiDigit c)
    : Begins limit stack c (.ok ⟨stack, .number (.firstDigit false c)⟩)
  | word {c rest meaning} (first : c.isAlpha) (letters : ∀ d ∈ rest, d.isAlpha)
    : Begins limit stack c (.ok ⟨stack, .word rest meaning⟩)

theorem openFrame_begins {c : Char} {frame : Frame} {mode : Mode} {stack : List Frame}
    (bracket : c = '[' ∨ c = '\x7b') (opens : Begins limit stack c (.ok ⟨frame :: stack, mode⟩))
    : Begins limit stack c (openFrame limit frame mode stack) := by
  unfold openFrame
  split
  · exact .tooDeep bracket ‹_›
  · exact opens

theorem beginValue_begins (c : Char) (stack : List Frame)
    : Begins limit stack c (beginValue limit c stack) := by
  have choose {p : Prop} [Decidable p] {yes no : Except Refusal State}
    (left : p → Begins limit stack c yes) (right : Begins limit stack c no)
    : Begins limit stack c (if p then yes else no) := by
    by_cases holds : p
    · rw [if_pos holds]
      exact left holds
    · rw [if_neg holds]
      exact right
  refine choose (fun same => same ▸ .string) ?_
  refine choose (fun same => openFrame_begins (.inl same) (same ▸ .list)) ?_
  refine choose (fun same => openFrame_begins (.inr same) (same ▸ .table)) ?_
  refine choose (fun same => same ▸ .minus) ?_
  refine choose .digit ?_
  refine choose (fun same => .word (same ▸ by decide) (List.all_eq_true.mp (by decide))) ?_
  refine choose (fun same => .word (same ▸ by decide) (List.all_eq_true.mp (by decide))) ?_
  refine choose (fun same => .word (same ▸ by decide) (List.all_eq_true.mp (by decide))) ?_
  refine choose (fun same => .word (same ▸ by decide) (List.all_eq_true.mp (by decide))) ?_
  exact choose (fun same => .word (same ▸ by decide) (List.all_eq_true.mp (by decide))) .malformed

theorem StringState.pushEscape_escape (s : StringState) (code : Nat)
    : (s.pushEscape code).escape = .none := by
  unfold StringState.pushEscape
  split
  · split <;> rfl
  · rfl
  · rfl

/-- A unit within a string leaves the brackets as they are. -/
theorem StringState.push_nesting {s : StringState} {unit : TextUnit} {result : Option StringState}
    (pushed : s.push unit = .ok result) (depth : Nat)
    : Nesting.push ⟨depth, true, s.escape = .open⟩ unit
      = match result with
        | some s => ⟨depth, true, s.escape = .open⟩
        | none => ⟨depth, false, false⟩ := by
  unfold StringState.push at pushed
  cases escape : s.escape with
  | none =>
      simp only [escape] at pushed
      split_ifs at pushed <;> cases pushed <;> simp_all [Nesting.push]
  | «open» =>
      -- whatever stands behind a backslash neither ends the string nor escapes anything more
      have behind : ∃ s', result = some s' ∧ s'.escape ≠ .open := by
        simp only [escape] at pushed
        split at pushed
        · cases pushed
          exact ⟨_, rfl, nofun⟩
        · split at pushed
          · cases pushed
            exact ⟨_, rfl, nofun⟩
          · cases pushed
        · cases pushed
      obtain ⟨s', rfl, closed⟩ := behind
      simp [Nesting.push, closed]
  | number digits code =>
      simp only [escape] at pushed
      split at pushed
      · cases pushed
      · rename_i d hex
        have plain : unit ≠ .char '"' ∧ unit ≠ .char '\\' := by
          constructor <;> rintro rfl <;> cases hex
        have inside : ∃ s', result = some s' ∧ s'.escape ≠ .open := by
          split at pushed <;> cases pushed
          · exact ⟨_, rfl, by rw [pushEscape_escape]; nofun⟩
          · exact ⟨_, rfl, nofun⟩
        obtain ⟨s', rfl, closed⟩ := inside
        simp [Nesting.push, plain, closed]

theorem StringState.push_error {s : StringState} {unit : TextUnit} {refusal : Refusal}
    (refused : s.push unit = .error refusal)
    : refusal = .malformed := by
  unfold StringState.push at refused
  split at refused
  · split_ifs at refused
    cases refused
    rfl
  · split at refused
    · cases refused
    · split at refused
      · cases refused
      · cases refused
        rfl
    · cases refused
      rfl
  · split at refused
    · cases refused
      rfl
    · split at refused <;> cases refused

-----------------------------------------------------------------------------------------
-- Numbers
-----------------------------------------------------------------------------------------

/-- A run of ASCII digits within a text. -/
def HasDigits (text : Text) (count : Nat) : Prop :=
  ∃ digits : List Char,
    digits.length = count ∧ (∀ c ∈ digits, Text.isAsciiDigit c) ∧ digits.map .char <:+: text

/-- The whole part of a number stands in the text before, at its end as long as it may go on. -/
structure NumberState.StandsIn (before : Text) (n : NumberState) : Prop where
  digits : ∀ c ∈ n.whole, Text.isAsciiDigit c
  within : n.whole.reverse.map .char <:+: before
  last : n.part = .whole → n.whole.reverse.map .char <:+ before

theorem NumberState.StandsIn.first (before : Text) (negative : Bool) {c : Char}
    (digit : Text.isAsciiDigit c)
    : (NumberState.firstDigit negative c).StandsIn (before ++ [.char c]) where
  digits := by simpa [NumberState.firstDigit] using digit
  within := (List.suffix_append before [.char c]).isInfix
  last _ := List.suffix_append before [.char c]

/-- A character more of a number is one of its whole part, or leaves that part as it is. -/
theorem NumberState.StandsIn.push {before : Text} {n next : NumberState} {c : Char}
    (stands : n.StandsIn before) (pushed : n.push? c = some next)
    : next.StandsIn (before ++ [.char c]) := by
  have grown (m : NumberState) (same : m.whole = n.whole) (other : m.part ≠ .whole)
      : m.StandsIn (before ++ [.char c]) := {
    digits := same ▸ stands.digits
    within := same ▸ stands.within.trans (List.prefix_append _ _).isInfix
    last := fun part => absurd part other
  }
  unfold push? at pushed
  cases part : n.part with
  | sign =>
      simp only [part] at pushed
      split_ifs at pushed with digit
      cases pushed
      exact .first before n.negative digit
  | whole =>
      simp only [part] at pushed
      split_ifs at pushed with digit
      · cases pushed
        obtain ⟨start, rfl⟩ := stands.last part
        have longer
          : (c :: n.whole).reverse.map TextUnit.char
            <:+ start ++ n.whole.reverse.map .char ++ [.char c] := ⟨start, by simp⟩
        exact {
          digits := by simpa [digit] using stands.digits
          within := longer.isInfix
          last := fun _ => longer
        }
      all_goals
        cases pushed
        exact grown _ rfl nofun
  | _ =>
      simp only [part] at pushed
      split_ifs at pushed <;> cases pushed <;> exact grown _ rfl (by simp)

/-- Characters that a number may go on with. -/
def isNumeric (c : Char) : Bool :=
  Text.isAsciiDigit c || c == '.' || c == 'e' || c == 'E' || c == '+' || c == '-'

theorem NumberState.push?_isNumeric {n next : NumberState} {c : Char}
    (pushed : n.push? c = some next)
    : isNumeric c := by
  unfold push? at pushed
  cases part : n.part <;> simp only [part] at pushed <;> split_ifs at pushed <;>
    grind [isNumeric]

-----------------------------------------------------------------------------------------
-- Readers behind a text
-----------------------------------------------------------------------------------------

/-- A reader has come behind a text: it is at the place behind it, and a number that is under way
stands in it. Words are spelled in letters.
-/
structure State.Behind (text : Text) (state : State) : Prop where
  nesting : state.nesting = text.foldl Nesting.push .start
  number : ∀ n, state.mode = .number n → n.StandsIn text
  word : ∀ rest meaning, state.mode = .word rest meaning → ∀ c ∈ rest, c.isAlpha

/-- Why a reader breaks off at the end of a text: the text breaks the grammar, or a limit. -/
inductive Refusal.At (limit : Nat) (text : Text) : Refusal → Prop where
  | malformed : Refusal.At limit text .malformed
  | longNumber {count} (exceeds : maxDigits < count) (digits : HasDigits text count)
    : Refusal.At limit text (.longNumber count)
  | tooDeep (exceeds : limit < depth text) : Refusal.At limit text .tooDeep

/-- The end of a number breaks the reading off behind too many digits, as long as it is whole. -/
theorem NumberState.StandsIn.finish {before text : Text} {n : NumberState} {refusal : Refusal}
    (stands : n.StandsIn before) (begins : before <+: text) (refused : n.finish = .error refusal)
    : refusal.At limit text := by
  have long : HasDigits text n.whole.length :=
    ⟨n.whole.reverse, List.length_reverse, by simpa using stands.digits,
      stands.within.trans begins.isInfix⟩
  unfold NumberState.finish at refused
  split at refused
  · cases refused
  · cases refused
  · split_ifs at refused with exceeds <;> cases refused
    · exact .longNumber exceeds.2 long
    · exact .malformed

/-- What a reader comes to behind a text: a state there, or a refusal for what stands there. -/
def Reaches (limit : Nat) (text : Text) : Except Refusal State → Prop
  | .ok state => state.Behind text
  | .error refusal => refusal.At limit text

theorem State.Behind.start : State.start.Behind [] where
  nesting := rfl
  number := nofun
  word := nofun

/-- A reader that is neither in a number nor in a word is behind a text if it is at its end. -/
theorem State.Behind.of_nesting {text : Text} {state : State}
    (place : state.nesting = text.foldl Nesting.push .start)
    (number : ∀ n, state.mode ≠ .number n) (word : ∀ rest meaning, state.mode ≠ .word rest meaning)
    : state.Behind text where
  nesting := place
  number n same := absurd same (number n)
  word rest meaning same := absurd same (word rest meaning)

section Step

variable {before : Text} {stack : List Frame} {c : Char}

/-- The place behind one unit more. -/
theorem foldl_push_append {before : Text} {nesting : Nesting}
    (place : before.foldl Nesting.push .start = nesting) (unit : TextUnit)
    : (before ++ [unit]).foldl Nesting.push .start = nesting.push unit := by
  rw [List.foldl_append, List.foldl_cons, List.foldl_nil, place]

variable (place : before.foldl Nesting.push .start = ⟨stack.length, false, false⟩)

include place

theorem deliver_behind (value : Value Text) : (deliver value stack).Behind before := by
  refine .of_nesting (by rw [deliver_nesting, place]) ?_ ?_
  all_goals fun_cases deliver value stack <;> exact nofun

theorem beginValue_reaches : Reaches limit (before ++ [.char c]) (beginValue limit c stack) := by
  have behind := foldl_push_append place (.char c)
  have begins : Begins limit stack c (beginValue limit c stack) := beginValue_begins c stack
  generalize beginValue limit c stack = begun at begins
  cases begins with
  | malformed => exact .malformed
  | tooDeep bracket full =>
      have deeper : depth (before ++ [.char c]) = stack.length + 1 := by
        rw [depth, behind]
        rcases bracket with rfl | rfl <;> rfl
      exact .tooDeep (by omega)
  | list => exact .of_nesting behind.symm nofun nofun
  | table => exact .of_nesting behind.symm nofun nofun
  | string => exact .of_nesting behind.symm nofun nofun
  | minus =>
      exact {
        nesting := behind.symm
        number := by
          rintro _ ⟨⟩
          exact ⟨nofun, List.nil_infix, nofun⟩
        word := nofun
      }
  | digit digit =>
      exact {
        nesting := (behind.trans (Nesting.push_of_kind Text.isAsciiDigit _ digit)).symm
        number := by
          rintro _ ⟨⟩
          exact .first before false digit
        word := nofun
      }
  | word first letters =>
      exact {
        nesting := (behind.trans (Nesting.push_of_kind Char.isAlpha _ first)).symm
        number := nofun
        word := by
          rintro _ _ ⟨⟩
          exact letters
      }

/-- A closing bracket delivers the value of the innermost level behind itself. -/
theorem close_reaches : Reaches limit (before ++ [.char c]) (close c stack) := by
  have behind := foldl_push_append place (.char c)
  fun_cases close c stack with
  | case1 items rest same => exact deliver_behind (behind.trans (same ▸ rfl)) _
  | case3 entries key rest same => exact deliver_behind (behind.trans (same ▸ rfl)) _
  | _ => exact .malformed

end Step

section Step

variable {before : Text} {state : State}

/-- A unit more of a string is one within it, or its end, behind which it is delivered. -/
theorem string_reaches {stack : List Frame} {isKey : Bool} {s : StringState}
    (behind : State.Behind before ⟨stack, .string isKey s⟩) (unit : TextUnit)
    : Reaches limit (before ++ [unit]) (stepPlain limit ⟨stack, .string isKey s⟩ unit) := by
  have place := foldl_push_append behind.nesting.symm unit
  cases pushed : s.push unit with
  | error refusal =>
      obtain rfl := StringState.push_error pushed
      simp only [stepPlain, pushed]
      exact .malformed
  | ok result =>
      have within := place.trans (StringState.push_nesting pushed stack.length)
      cases result with
      | some s =>
          simp only [stepPlain, pushed, bind, Except.bind]
          exact .of_nesting within.symm nofun nofun
      | none =>
          simp only [stepPlain, pushed, bind, Except.bind]
          split
          · unfold deliverKey
            split
            · exact .of_nesting within.symm nofun nofun
            · exact .malformed
          · exact deliver_behind within _

/-- A unit more of a word is a letter. -/
theorem word_reaches {stack : List Frame} {rest : List Char} {meaning : Value Text}
    (behind : State.Behind before ⟨stack, .word rest meaning⟩) (unit : TextUnit)
    : Reaches limit (before ++ [unit]) (stepPlain limit ⟨stack, .word rest meaning⟩ unit) := by
  have place := foldl_push_append behind.nesting.symm unit
  cases rest with
  | nil => exact .malformed
  | cons c rest =>
      have letters := List.forall_mem_cons.mp (behind.word _ _ rfl)
      simp only [stepPlain]
      split
      · exact .malformed
      · rename_i same
        rw [not_not.mp same] at place ⊢
        have within := place.trans (Nesting.push_of_kind Char.isAlpha _ letters.1)
        split
        · exact deliver_behind within _
        · exact {
            nesting := within.symm
            number := nofun
            word := by
              rintro _ _ ⟨⟩
              exact letters.2
          }

/-- The modes between strings, numbers and words. -/
def Mode.isBetween : Mode → Bool
  | .string _ _ => false
  | .number _ => false
  | .word _ _ => false
  | _ => true

theorem State.Behind.between {text : Text} {stack : List Frame} {mode : Mode}
    (between : mode.isBetween)
    (place : text.foldl Nesting.push .start = ⟨stack.length, false, false⟩)
    : State.Behind text ⟨stack, mode⟩ := by
  cases mode with
  | string | number | word => cases between
  | _ => exact .of_nesting place.symm nofun nofun

/-- A unit more between strings, numbers and words is a blank, or it begins or ends something. -/
theorem between_reaches {stack : List Frame} {mode : Mode} (between : mode.isBetween) (c : Char)
    (place : before.foldl Nesting.push .start = ⟨stack.length, false, false⟩)
    : Reaches limit (before ++ [.char c]) (stepPlain limit ⟨stack, mode⟩ (.char c)) := by
  have next := foldl_push_append place (.char c)
  have moves (kind : Char → Bool) (holds : kind c) {moved : Mode} (between : moved.isBetween)
    (unmarked : marks.all (!kind ·) := by decide)
    : Reaches limit (before ++ [.char c]) (.ok ⟨stack, moved⟩) :=
    .between between (next.trans (Nesting.push_of_kind kind _ holds unmarked))
  have opens (quote : c = '"')
    : Reaches limit (before ++ [.char c]) (.ok ⟨stack, .string true .start⟩) := by
    subst quote
    exact .of_nesting next.symm nofun nofun
  by_cases blank : isBlank c
  · cases mode with
    | string | number | word => cases between
    | _ =>
        simp only [stepPlain, if_pos blank]
        exact moves isBlank blank rfl
  cases mode with
  | string | number | word => cases between
  | value =>
      simp only [stepPlain, if_neg blank]
      exact beginValue_reaches place
  | firstItem =>
      simp only [stepPlain, if_neg blank]
      split
      · exact close_reaches place
      · exact beginValue_reaches place
  | firstKey =>
      simp only [stepPlain, if_neg blank]
      split
      · exact close_reaches place
      · split
        · exact opens ‹_›
        · exact .malformed
  | nextKey =>
      simp only [stepPlain, if_neg blank]
      split
      · exact opens ‹_›
      · exact .malformed
  | colon =>
      simp only [stepPlain, if_neg blank]
      split
      · exact moves (· == ':') (beq_iff_eq.mpr ‹_›) rfl
      · exact .malformed
  | next =>
      simp only [stepPlain, if_neg blank]
      split
      · have comma := beq_iff_eq.mpr ‹c = ','›
        split <;> exact moves (· == ',') comma rfl
      · exact close_reaches place
  | done root =>
      simp only [stepPlain, if_neg blank]
      exact .malformed

/-- A half of a pair stands in strings alone. -/
theorem half_reaches {index : Fin 2048} (behind : state.Behind before)
    (number : ∀ n, state.mode ≠ .number n)
    : Reaches limit (before ++ [.half index]) (stepPlain limit state (.half index)) := by
  obtain ⟨stack, mode⟩ := state
  cases mode with
  | string isKey s => exact string_reaches behind _
  | word rest meaning => exact word_reaches behind _
  | _ => exact .malformed

theorem stepPlain_reaches (behind : state.Behind before) (number : ∀ n, state.mode ≠ .number n)
    (unit : TextUnit)
    : Reaches limit (before ++ [unit]) (stepPlain limit state unit) := by
  obtain ⟨stack, mode⟩ := state
  cases unit with
  | half index => exact half_reaches behind number
  | char c =>
    cases mode with
    | string isKey s => exact string_reaches behind _
    | word rest meaning => exact word_reaches behind _
    | number n => exact absurd rfl (number n)
    | _ => exact between_reaches rfl c behind.nesting.symm

/-- A step leads behind one unit more, or it is refused for what stands there. -/
theorem step_reaches (behind : state.Behind before) (unit : TextUnit)
    : Reaches limit (before ++ [unit]) (step limit state unit) := by
  obtain ⟨stack, mode⟩ := state
  cases mode with
  | number n =>
      have place : before.foldl Nesting.push .start = ⟨stack.length, false, false⟩ :=
        behind.nesting.symm
      have stands := behind.number n rfl
      have longer := List.prefix_append before [unit]
      simp only [step]
      split
      · rename_i infinity
        rw [infinity.2]
        exact {
          nesting := by
            rw [foldl_push_append place]
            rfl
          number := nofun
          word := by
            rintro _ _ ⟨⟩
            exact List.all_eq_true.mp (by decide)
        }
      split
      · rename_i found
        obtain ⟨c, rfl, pushed⟩ : ∃ c, unit = .char c ∧ n.push? c = some _ := by
          obtain ⟨c, char, pushed⟩ := Option.bind_eq_some_iff.mp found
          cases unit <;> cases char
          exact ⟨_, rfl, pushed⟩
        exact {
          nesting := by
            rw [foldl_push_append place]
            exact (Nesting.push_of_kind isNumeric _ (NumberState.push?_isNumeric pushed)).symm
          number := by
            rintro _ ⟨⟩
            exact stands.push pushed
          word := nofun
        }
      · cases ended : n.finish with
        | error refusal => exact stands.finish longer ended
        | ok value =>
            refine stepPlain_reaches (deliver_behind place value) ?_ unit
            fun_cases deliver value stack <;> nofun
  | _ => exact stepPlain_reaches behind nofun unit

end Step

-----------------------------------------------------------------------------------------
-- Texts
-----------------------------------------------------------------------------------------

/-- A reader comes behind a text, or it is refused at the end of some part of it: by induction on
the text from its end.
-/
theorem read_reaches (text : Text)
    : (∃ state, text.foldlM (step limit) State.start = .ok state ∧ state.Behind text)
      ∨ ∃ part refusal,
          part <+: text
          ∧ text.foldlM (step limit) State.start = .error refusal
          ∧ refusal.At limit part := by
  induction text using List.reverseRecOn with
  | nil => exact .inl ⟨_, rfl, .start⟩
  | append_singleton before unit ih =>
      rcases ih with ⟨state, read, behind⟩ | ⟨part, refusal, begins, read, stands⟩
      · have reaches : Reaches limit (before ++ [unit]) (step limit state unit) :=
          step_reaches behind unit
        have whole
          : (before ++ [unit]).foldlM (step limit) State.start = step limit state unit := by
          rw [List.foldlM_append, read]
          exact bind_pure (step limit state unit)
        rw [whole]
        cases stepped : step limit state unit with
        | ok next => exact .inl ⟨next, rfl, by rwa [stepped] at reaches⟩
        | error refusal =>
            exact .inr ⟨_, refusal, List.prefix_refl _, rfl, by rwa [stepped] at reaches⟩
      · refine .inr ⟨part, refusal, begins.trans (List.prefix_append _ _), ?_, stands⟩
        rw [List.foldlM_append, read]
        rfl

/-- What is refused is refused for what stands at the end of some part of the text. -/
theorem read_error {text : Text} {refusal : Refusal} (refused : read limit text = .error refusal)
    : ∃ part, part <+: text ∧ refusal.At limit part := by
  unfold read at refused
  rcases read_reaches text with ⟨state, read, behind⟩ | ⟨part, refusal', begins, read, stands⟩
  · rw [read] at refused
    refine ⟨text, List.prefix_refl _, ?_⟩
    change state.finish = .error refusal at refused
    unfold State.finish at refused
    split at refused
    · cases refused
    · rename_i n mode
      cases ended : n.finish with
      | error found =>
          rw [ended] at refused
          cases refused
          exact (behind.number n mode).finish (List.prefix_refl _) ended
      | ok value =>
          simp only [ended, bind, Except.bind] at refused
          split at refused <;> cases refused
          exact .malformed
    · cases refused
      exact .malformed
  · rw [read] at refused
    cases refused
    exact ⟨part, begins, stands⟩

/-- A text has no run of digits over the limit, and at no place too many brackets are open. -/
structure WithinLimits (limit : Nat) (text : Text) : Prop where
  digits : ∀ count, HasDigits text count → count ≤ maxDigits
  depth : ∀ part, part <+: text → depth part ≤ limit

/-- A fault names the limit that a text breaks: a run of digits in it, or the brackets that are open
behind it.
-/
def Fault.Breaks (limit : Nat) (text : Text) : Fault → Prop
  | .longNumber count => maxDigits < count ∧ HasDigits text count
  | .tooDeep => limit < depth text

/-- A fault of a text names the limit that some part of it breaks. -/
theorem readTable_fault {text : Text} {fault : Fault} (broken : readTable limit text = .error fault)
    : ∃ part, part <+: text ∧ fault.Breaks limit part := by
  unfold readTable at broken
  split at broken
  · cases broken
  · cases broken
  · rename_i digits refused
    cases broken
    obtain ⟨part, begins, stands⟩ := read_error refused
    cases stands with
    | longNumber exceeds run => exact ⟨part, begins, exceeds, run⟩
  · rename_i refused
    cases broken
    obtain ⟨part, begins, stands⟩ := read_error refused
    cases stands with
    | tooDeep exceeds => exact ⟨part, begins, exceeds⟩

/-- A text within the limits is answered, whatever else it is. -/
theorem readTable_answers {text : Text} (limits : WithinLimits limit text)
    : ∃ answer, readTable limit text = .ok answer := by
  cases answered : readTable limit text with
  | ok answer => exact ⟨answer, rfl⟩
  | error fault =>
      obtain ⟨part, begins, broken⟩ := readTable_fault answered
      cases fault with
      | longNumber count =>
          obtain ⟨exceeds, digits, same, all, within⟩ := broken
          have bound := limits.digits count ⟨digits, same, all, within.trans begins.isInfix⟩
          omega
      | tooDeep =>
          have bound := limits.depth part begins
          unfold Fault.Breaks at broken
          omega

end Conductor.Json
