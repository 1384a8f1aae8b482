import Conductor.Proofs.PatternGroups
import Conductor.Proofs.Readers

/-! Why a pattern is not judged. The reader of a pattern breaks off, other than for its grammar, at
a number of runs that is too long or too large, at flags for two sets of characters, and at a group
too many; each of these stands in the text of the pattern.
-/

namespace Conductor.Pattern

-----------------------------------------------------------------------------------------
-- Parts that break the grammar alone
-----------------------------------------------------------------------------------------

/-- The reader of a part of a pattern that refuses it for its grammar only. -/
abbrev Parses {α : Type} (tokens : List Token) (result : Except Refusal (α × List Token)) : Prop :=
  Reads (· = .malformed) tokens result

/-- The characters that are taken stand in front of the rest. -/
theorem takeChars_eq (p : Char → Bool) (limit : Nat) (tokens : List Token)
    : (Token.takeChars p limit tokens).1.map .plain ++ (Token.takeChars p limit tokens).2 = tokens
      ∧ ∀ c ∈ (Token.takeChars p limit tokens).1, p c := by
  fun_induction Token.takeChars p limit tokens with
  | case1 limit c rest holds cs after taken ih =>
      rw [taken] at ih
      exact ⟨by rw [List.map_cons, List.cons_append, ih.1], List.forall_mem_cons.mpr ⟨holds, ih.2⟩⟩
  | case2 limit c rest fails => exact ⟨rfl, nofun⟩
  | case3 limit tokens other => exact ⟨rfl, nofun⟩

theorem takeChars_suffix (p : Char → Bool) (limit : Nat) (tokens : List Token)
    : (Token.takeChars p limit tokens).2 <:+ tokens :=
  ⟨_, (takeChars_eq p limit tokens).1⟩

theorem hexCode_parses (count : Nat) (tokens : List Token)
    : Parses tokens (Token.hexCode count tokens) := by
  unfold Token.hexCode
  dsimp only
  split
  · exact takeChars_suffix _ _ _
  · exact rfl

theorem upTo_parses (stop : Char) (done : List Char) (tokens : List Token)
    : Parses tokens (Token.upTo stop done tokens) := by
  fun_induction Token.upTo stop done tokens with
  | case1 | case2 | case5 => exact rfl
  | case3 done c rest ih => exact ih.behind
  | case4 done c rest other ih => exact ih.behind
  | case6 => exact List.suffix_cons _ _

/-- Digits up to a closing character stand in front of it. -/
theorem upTo_digits {stop : Char} {done digits : List Char} {tokens rest : List Token}
    (read : Token.upTo stop done tokens = .ok (digits, rest))
    (all : ∀ c ∈ digits, Text.isAsciiDigit c)
    : ∃ run : List Char,
        digits = done.reverse ++ run ∧ tokens = run.map .plain ++ .plain stop :: rest := by
  fun_induction Token.upTo stop done tokens with
  | case1 | case2 | case5 => cases read
  | case3 done c tokens ih =>
      -- a backslash would be among the digits
      obtain ⟨run, rfl, _⟩ := ih read
      exact absurd (all '\\' (by simp)) (by decide)
  | case4 done c tokens other ih =>
      obtain ⟨run, rfl, rfl⟩ := ih read
      exact ⟨c :: run, by simp, rfl⟩
  | case6 done c tokens other nonempty =>
      cases read
      exact ⟨[], by simp, by rw [Classical.not_not.mp other]; rfl⟩

section Engine

variable {engine : Engine}

theorem nameEscape_parses (tokens : List Token) : Parses tokens (nameEscape engine tokens) := by
  unfold nameEscape
  split
  · refine .behind ((upTo_parses '\x7d' [] _).bind fun name rest _ => ?_)
    dsimp only
    split
    · exact .here _
    · exact rfl
  · exact rfl

theorem codeEscape_parses (c : Char) (tokens : List Token)
    : Parses tokens (codeEscape engine c tokens) := by
  unfold codeEscape
  split
  · exact hexCode_parses 2 tokens
  · exact hexCode_parses 4 tokens
  · exact hexCode_parses 8 tokens
  · exact nameEscape_parses tokens
  · split
    · exact rfl
    · exact .here _

theorem classEscape_parses (flags : Flags) (c : Char) (tokens : List Token)
    : Parses tokens (classEscape engine flags c tokens) := by
  unfold classEscape
  split
  · exact .here _
  · exact .here _
  split
  · exact .here _
  split
  · dsimp only
    split
    · exact rfl
    · exact takeChars_suffix _ _ _
  · exact (codeEscape_parses c tokens).bind fun code rest _ => .here _

theorem digitEscape_parses (flags : Flags) (c : Char) (tokens : List Token)
    : Parses tokens (digitEscape flags c tokens) := by
  have first := takeChars_suffix Text.isAsciiDigit 1 tokens
  unfold digitEscape
  split
  · rename_i d rest taken
    rw [taken] at first
    have second := takeChars_suffix Token.isOctalDigit 1 rest
    dsimp only
    split
    · rename_i e after _ more
      rw [more] at second
      split
      · exact rfl
      · exact second.trans first
    · exact first
  · rename_i taken
    rw [taken] at first
    exact first

theorem escape_parses (flags : Flags) (c : Char) (tokens : List Token)
    : Parses tokens (escape engine flags c tokens) := by
  unfold escape
  split
  · exact .here _
  · exact .here _
  · exact .here _
  split
  · exact takeChars_suffix _ _ _
  split
  · exact digitEscape_parses flags c tokens
  · exact (codeEscape_parses c tokens).bind fun code rest _ => .here _

/-- A part of a class is read, or a range, and then the items behind it. -/
theorem classItems_go_parses {flags : Flags} {done : List ClassItem} {fuel : Nat}
    {readPart : List Token → Except Refusal (ClassPart × List Token)}
    (parts : ∀ tokens, Parses tokens (readPart tokens))
    (items : ∀ done tokens, Parses tokens (classItems engine flags done fuel tokens))
    (tokens : List Token)
    : Parses tokens (classItems.go engine flags done readPart fuel tokens) := by
  unfold classItems.go
  refine (parts tokens).bind fun first rest _ => ?_
  dsimp only
  split
  · rename_i after
    exact (List.suffix_cons _ _).trans (List.suffix_cons _ _)
  · refine .behind ((parts _).bind fun last rest _ => ?_)
    dsimp only
    split
    · split
      · exact rfl
      · exact items _ rest
    · exact rfl
  · exact items _ _

/-- The items of a class are read by induction on how many there may be. -/
theorem classItems_parses (flags : Flags) (done : List ClassItem) (fuel : Nat) (tokens : List Token)
    : Parses tokens (classItems engine flags done fuel tokens) := by
  induction fuel generalizing done tokens with
  | zero =>
      unfold classItems
      exact rfl
  | succ fuel ih =>
      unfold classItems
      dsimp only
      split
      case' h_1 => split
      case h_1.isFalse => exact List.suffix_cons _ _
      all_goals
        refine classItems_go_parses (fun tokens => ?_) ih _
        split
        · exact List.suffix_cons _ _
        · exact .behind (classEscape_parses flags _ _)
        · exact rfl

theorem charClass_parses (flags : Flags) (tokens : List Token)
    : Parses tokens (charClass engine flags tokens) := by
  unfold charClass
  split
  rename_i negated inner opened
  have ends : inner <:+ tokens := by
    split at opened <;> cases opened
    · exact List.suffix_cons _ _
    · exact List.suffix_refl _
  refine .within ((classItems_parses flags [] _ inner).bind fun items rest _ => ?_) ends
  exact .here _

end Engine

theorem readFlags_eq_ok {stops done set : List Char} {stop : Char} {tokens rest : List Token}
    (read : readFlags stops done tokens = .ok (set, stop, rest))
    : ∃ letters : List Char,
        set = done.reverse ++ letters
        ∧ (∀ c ∈ letters, c ∈ flagLetters)
        ∧ stop ∈ stops
        ∧ tokens = letters.map .plain ++ .plain stop :: rest := by
  fun_induction readFlags stops done tokens with
  | case1 done c tokens flag ih =>
      obtain ⟨letters, rfl, all, last, rfl⟩ := ih read
      refine ⟨c :: letters, by rw [List.reverse_cons, List.append_assoc]; rfl, ?_, last, rfl⟩
      exact List.forall_mem_cons.mpr ⟨List.contains_iff_mem.mp flag, all⟩
  | case2 done c tokens other stopped =>
      cases read
      exact ⟨[], (List.append_nil _).symm, nofun, List.contains_iff_mem.mp stopped, rfl⟩
  | case3 => cases read
  | case4 => cases read

theorem readFlags_eq_error {stops done : List Char} {tokens : List Token} {refusal : Refusal}
    (read : readFlags stops done tokens = .error refusal)
    : refusal = .malformed := by
  fun_induction readFlags stops done tokens with
  | case1 done c tokens flag ih => exact ih read
  | case2 => cases read
  | case3 =>
      cases read
      rfl
  | case4 =>
      cases read
      rfl

theorem skipComment_parses (tokens : List Token)
    : Parses tokens ((skipComment tokens).map ((), ·)) := by
  fun_induction skipComment tokens with
  | case1 rest => exact List.suffix_cons _ _
  | case2 => rfl
  | case3 token rest other inner ih => exact ih.behind
  | case4 => rfl

theorem skipLine_suffix (tokens : List Token) : skipLine tokens <:+ tokens := by
  fun_induction skipLine tokens with
  | case1 rest => exact List.suffix_cons _ _
  | case2 => exact List.suffix_refl _
  | case3 token rest other inner ih => exact ih.trans (List.suffix_cons _ _)
  | case4 => exact List.suffix_refl _

-----------------------------------------------------------------------------------------
-- Refusals in a pattern
-----------------------------------------------------------------------------------------

/-- A run of ASCII digits stands in the parts of a pattern. -/
def HasDigits (tokens : List Token) (digits : List Char) : Prop :=
  (∀ c ∈ digits, Text.isAsciiDigit c) ∧ digits.map .plain <:+: tokens

/-- A letter of a group of flags for the whole pattern stands in its parts. -/
def HasFlag (tokens : List Token) (letter : Char) : Prop :=
  ∃ letters : List Char,
    letter ∈ letters
    ∧ (∀ c ∈ letters, c ∈ flagLetters)
    ∧ .plain '(' :: .plain '?' :: (letters.map .plain ++ [.plain ')']) <:+: tokens

/-- The number of parentheses in the parts of a pattern that may open groups. -/
def parentheses (tokens : List Token) : Nat :=
  tokens.count (.plain '(')

/-- Why the parts of a pattern are refused: for the grammar, or for what stands among them. -/
inductive Refusal.At (engine : Engine) (tokens : List Token) : Refusal → Prop
  | malformed : Refusal.At engine tokens .malformed
  | longNumber {digits} (run : HasDigits tokens digits) (exceeds : maxNumberDigits < digits.length)
    : Refusal.At engine tokens (.longNumber digits.length)
  | longRepetition {digits} (run : HasDigits tokens digits)
    (exceeds : repetitionLimit ≤ Text.valueIn 10 digits)
    : Refusal.At engine tokens .longRepetition
  | flagsClash (ascii : HasFlag tokens 'a') (unicode : HasFlag tokens 'u')
    : Refusal.At engine tokens .flagsClash
  | tooDeep {opened rest} (ends : rest <:+ tokens) (around : opened.length < parentheses tokens)
    (full : engine.room opened rest = false)
    : Refusal.At engine tokens .tooDeep

/-- A reader has come to an end of a pattern: no more groups are open than parentheses are behind
it, and flags for a set of characters stand behind it.
-/
structure ReaderState.Behind (whole rest : List Token) (state : ReaderState) : Prop where
  ends : rest <:+ whole
  depth : state.outer.length + parentheses rest ≤ parentheses whole
  ascii : state.globalAscii → HasFlag whole 'a'
  unicode : state.globalUnicode → HasFlag whole 'u'

/-- What a part of a pattern leads to: a reader behind it, or a refusal for what stands there. -/
def Lands (engine : Engine) (whole : List Token) : Except Refusal (ReaderState × List Token) → Prop
  | .ok (next, rest) => next.Behind whole rest
  | .error refusal => refusal.At engine whole

variable {engine : Engine} {whole tokens rest : List Token} {state next : ReaderState}

theorem parentheses_suffix (ends : rest <:+ tokens) : parentheses rest ≤ parentheses tokens :=
  ends.sublist.count_le _

namespace ReaderState.Behind

theorem start (whole : List Token) : ReaderState.start.Behind whole whole where
  ends := List.suffix_refl whole
  depth := Nat.le_of_eq (Nat.zero_add _)
  ascii := nofun
  unicode := nofun

/-- A reader that has as many groups open and the same flags is behind each end further on. -/
theorem further (behind : state.Behind whole tokens) (ends : rest <:+ tokens)
    (depth : next.outer.length = state.outer.length)
    (ascii : next.globalAscii = state.globalAscii)
    (unicode : next.globalUnicode = state.globalUnicode)
    : next.Behind whole rest where
  ends := ends.trans behind.ends
  depth := by
    have fewer := parentheses_suffix ends
    have bound := behind.depth
    omega
  ascii := ascii ▸ behind.ascii
  unicode := unicode ▸ behind.unicode

/-- Behind a parenthesis one group more may be opened, or too many stand in the pattern. -/
theorem opens {other : ReaderState} (behind : state.Behind whole (.plain '(' :: tokens))
    (ends : rest <:+ tokens) (depth : other.outer.length = state.outer.length)
    (ascii : other.globalAscii = state.globalAscii)
    (unicode : other.globalUnicode = state.globalUnicode) (opening : Opening) (flags : Flags)
    : Lands engine whole
        (other.openLevel engine opening flags rest >>= fun opened => .ok (opened, rest)) := by
  have fewer := parentheses_suffix ends
  have counted : parentheses (.plain '(' :: tokens) = parentheses tokens + 1 := List.count_cons_self
  have bound := behind.depth
  have within := (ends.trans (List.suffix_cons _ _)).trans behind.ends
  unfold ReaderState.openLevel
  split
  · exact {
      ends := within
      depth := by
        simp only [List.length_cons]
        omega
      ascii := ascii ▸ behind.ascii
      unicode := unicode ▸ behind.unicode
    }
  · rename_i full
    refine .tooDeep within ?_ (Bool.eq_false_iff.mpr full)
    simp only [ReaderState.openings, List.length_map, List.length_dropLast, List.length_cons]
    omega

end ReaderState.Behind

/-- A part that breaks the grammar alone leads to what its end leads to. -/
theorem Parses.lands {α : Type} {first : Except Refusal (α × List Token)}
    {after : α × List Token → Except Refusal (ReaderState × List Token)}
    (parses : Parses tokens first)
    (next : ∀ value rest, rest <:+ tokens → Lands engine whole (after (value, rest)))
    : Lands engine whole (first >>= after) := by
  cases first with
  | error refusal =>
      obtain rfl : refusal = .malformed := parses
      exact .malformed
  | ok found => exact next found.1 found.2 parses

-----------------------------------------------------------------------------------------
-- Repetitions
-----------------------------------------------------------------------------------------

theorem repeatCount_error {digits : List Char} {refusal : Refusal} (run : HasDigits whole digits)
    (refused : repeatCount digits = .error refusal)
    : refusal.At engine whole := by
  unfold repeatCount at refused
  split at refused
  · rename_i exceeds
    cases refused
    exact .longNumber run exceeds
  · dsimp only at refused
    split at refused <;> cases refused
    exact .longRepetition run ‹_›

/-- The digits that are taken from an end of a pattern stand in it. -/
theorem hasDigits_takeChars (limit : Nat) (ends : tokens <:+ whole)
    : HasDigits whole (Token.takeChars Text.isAsciiDigit limit tokens).1 := by
  obtain ⟨same, all⟩ := takeChars_eq Text.isAsciiDigit limit tokens
  exact ⟨all, List.IsInfix.trans ⟨[], _, same⟩ ends.isInfix⟩

/-- What becomes of the bounds of a repetition: none, bounds and an end of the parts, or a refusal
for what stands there.
-/
def Bounded (engine : Engine) (whole tokens : List Token)
    : Except Refusal (Option (Nat × Option Nat × List Token)) → Prop
  | .ok none => True
  | .ok (some (_, _, rest)) => rest <:+ tokens
  | .error refusal => refusal.At engine whole

/-- The digits of the upper bound behind those of the lower one, which are its own if there is no
comma between.
-/
def upperDigits (low : List Char) : List Token → List Char × List Token
  | .plain ',' :: rest => Token.takeChars Text.isAsciiDigit rest.length rest
  | rest => (low, rest)

/-- The bounds that two runs of digits tell, if a brace closes them. -/
def boundsOf (low high : List Char)
    : List Token → Except Refusal (Option (Nat × Option Nat × List Token))
  | .plain '\x7d' :: rest => do
    if rest = [.broken] then .error .malformed
    let min ← if low.isEmpty then .ok 0 else repeatCount low
    let max ← if high.isEmpty then .ok none else (repeatCount high).map some
    if max.any (· < min) then .error .malformed
    .ok (some (min, max, rest))
  | _ => .ok none

theorem upperDigits_other (low : List Char) {behind : List Token}
    (other : ∀ rest, behind ≠ .plain ',' :: rest)
    : upperDigits low behind = (low, behind) := by
  unfold upperDigits
  split
  · exact absurd rfl (other _)
  · rfl

/-- The bounds of a repetition in two parts, by cases on what stands behind the first digits. -/
theorem bounds?_eq {tokens behind : List Token} {low : List Char}
    (other : ∀ rest, tokens ≠ .plain '\x7d' :: rest)
    (taken : Token.takeChars Text.isAsciiDigit tokens.length tokens = (low, behind))
    : bounds? tokens = boundsOf low (upperDigits low behind).1 (upperDigits low behind).2 := by
  unfold bounds?
  split
  · exact absurd rfl (other _)
  simp only [taken]
  cases behind with
  | nil => rfl
  | cons token after =>
      cases token with
      | escaped | broken => rfl
      | plain c =>
          by_cases comma : c = ','
          · subst comma
            rfl
          rw [upperDigits_other low (by simp [comma])]
          by_cases closed : c = '\x7d'
          · subst closed
            rfl
          · unfold boundsOf
            split <;> simp_all

theorem boundsOf_bounded {low high : List Char} (lowDigits : HasDigits whole low)
    (highDigits : HasDigits whole high) {behind : List Token} (ends : behind <:+ tokens)
    : Bounded engine whole tokens (boundsOf low high behind) := by
  unfold boundsOf
  split
  · rename_i rest
    have finish (min : Nat) (max : Option Nat)
      : Bounded engine whole tokens
          (do
            if max.any (· < min) then .error .malformed
            .ok (some (min, max, rest))) := by
      split
      · exact .malformed
      · exact (List.suffix_cons _ _).trans ends
    have upper (min : Nat)
      : Bounded engine whole tokens
          (do
            let max ← if high.isEmpty then .ok none else (repeatCount high).map some
            if max.any (· < min) then .error .malformed
            .ok (some (min, max, rest))) := by
      dsimp only
      by_cases absent : high.isEmpty
      · rw [if_pos absent]
        exact finish min none
      · rw [if_neg absent]
        cases counted : repeatCount high with
        | error refusal => exact repeatCount_error highDigits counted
        | ok max => exact finish min (some max)
    by_cases broken : rest = [.broken]
    · rw [if_pos broken]
      exact .malformed
    rw [if_neg broken]
    dsimp only
    by_cases absent : low.isEmpty
    · rw [if_pos absent]
      exact upper 0
    · rw [if_neg absent]
      cases counted : repeatCount low with
      | error refusal => exact repeatCount_error lowDigits counted
      | ok min => exact upper min
  · exact trivial

/-- The bounds of a repetition end in the pattern, or one of them is refused for its digits. -/
theorem bounds?_bounded (ends : tokens <:+ whole)
    : Bounded engine whole tokens (bounds? tokens) := by
  by_cases closed : ∃ rest, tokens = .plain '\x7d' :: rest
  · obtain ⟨rest, rfl⟩ := closed
    exact trivial
  have lowDigits := hasDigits_takeChars tokens.length ends
  have lowEnds := takeChars_suffix Text.isAsciiDigit tokens.length tokens
  rcases taken : Token.takeChars Text.isAsciiDigit tokens.length tokens with ⟨low, behind⟩
  rw [taken] at lowDigits lowEnds
  rw [bounds?_eq (fun rest same => closed ⟨rest, same⟩) taken]
  unfold upperDigits
  split
  · rename_i after
    have behind : after <:+ tokens := (List.suffix_cons _ _).trans lowEnds
    exact boundsOf_bounded lowDigits (hasDigits_takeChars after.length (behind.trans ends))
      ((takeChars_suffix _ _ _).trans behind)
  · exact boundsOf_bounded lowDigits lowDigits lowEnds

theorem repeatLast_lands (behind : state.Behind whole tokens) (min : Nat) (max : Option Nat)
    : Lands engine whole (repeatLast state min max tokens) := by
  unfold repeatLast
  split
  · split
    rename_i greed rest asked
    have ends : rest <:+ tokens := by
      split at asked <;> cases asked
      · exact List.suffix_cons _ _
      · exact List.suffix_cons _ _
      · exact List.suffix_refl _
    exact behind.further ends rfl rfl rfl
  · exact .malformed

-----------------------------------------------------------------------------------------
-- Groups
-----------------------------------------------------------------------------------------

theorem pushSame_lands (behind : state.Behind whole tokens) (ends : rest <:+ tokens) (index : Nat)
    : Lands engine whole (state.pushSame index >>= fun pushed => .ok (pushed, rest)) := by
  unfold ReaderState.pushSame
  split
  · exact behind.further ends rfl rfl rfl
  · exact .malformed

theorem openCapture_lands (behind : state.Behind whole (.plain '(' :: tokens))
    (ends : rest <:+ tokens) (name : Option String)
    : Lands engine whole
        (openCapture engine state name rest >>= fun opened => .ok (opened, rest)) := by
  unfold openCapture
  dsimp only
  split
  · refine behind.opens ends ?_ ?_ ?_ _ _ <;> rfl
  · split
    · exact .malformed
    · refine behind.opens ends ?_ ?_ ?_ _ _ <;> rfl

/-- Flags are those of the whole pattern, and stand in it, or those of a group. -/
theorem flagGroup_lands (behind : state.Behind whole (.plain '(' :: .plain '?' :: tokens))
    : Lands engine whole (flagGroup engine state tokens) := by
  unfold flagGroup
  cases read : readFlags [')', ':', '-'] [] tokens with
  | error refusal =>
      obtain rfl := readFlags_eq_error read
      exact .malformed
  | ok found =>
      obtain ⟨set, stop, rest⟩ := found
      obtain ⟨letters, same, all, _, split⟩ := readFlags_eq_ok read
      rw [List.reverse_nil, List.nil_append] at same
      subst same
      have ends : rest <:+ tokens :=
        split ▸ (List.suffix_cons _ _).trans (List.suffix_append _ _)
      have opens {rest : List Token} (ends : rest <:+ tokens) (adjusted : Flags)
        : Lands engine whole
            (state.openLevel engine .plain adjusted rest >>= fun opened => .ok (opened, rest)) :=
        behind.opens (ends.trans (List.suffix_cons _ _)) rfl rfl rfl _ _
      simp only [bind, Except.bind]
      split
      · exact .malformed
      split
      · split
        · rename_i closed _
          have stands {letter : Char} (member : set.contains letter) : HasFlag whole letter := by
            refine ⟨set, List.contains_iff_mem.mp member, all,
              List.IsInfix.trans ⟨[], rest, ?_⟩ behind.ends.isInfix⟩
            rw [split, closed]
            simp
          have further : state.Behind whole rest :=
            behind.further (ends.trans ((List.suffix_cons _ _).trans (List.suffix_cons _ _))) rfl
              rfl rfl
          exact {
            ends := further.ends
            depth := further.depth
            ascii := fun set => (Bool.or_eq_true _ _ ▸ set).elim behind.ascii stands
            unicode := fun set => (Bool.or_eq_true _ _ ▸ set).elim behind.unicode stands
          }
        · exact .malformed
      split
      · exact .malformed
      split
      · exact opens ends _
      -- letters that are cleared stand behind those that are set
      cases more : readFlags [':'] [] rest with
      | error refusal =>
          obtain rfl := readFlags_eq_error more
          exact .malformed
      | ok found =>
          obtain ⟨clear, last, after⟩ := found
          obtain ⟨_, _, _, _, split⟩ := readFlags_eq_ok more
          have later : after <:+ rest :=
            split ▸ (List.suffix_cons _ _).trans (List.suffix_append _ _)
          dsimp only
          split
          · exact .malformed
          · exact opens (later.trans ends) _

/-- A condition names a group or tells its number, or it breaks the grammar, or its number is too
long.
-/
theorem conditionGroup_error {name : List Char} {refusal : Refusal}
    (stands : (∀ c ∈ name, Text.isAsciiDigit c) → HasDigits whole name)
    (refused : conditionGroup state name = .error refusal)
    : refusal.At engine whole := by
  unfold conditionGroup at refused
  split at refused
  · rename_i digits
    dsimp only at refused
    split at refused
    · rename_i exceeds
      cases refused
      exact .longNumber (stands (List.all_eq_true.mp digits)) exceeds
    split at refused <;> cases refused
    exact .malformed
  split at refused
  · split at refused <;> cases refused
    exact .malformed
  · cases refused
    exact .malformed

/-- A group, by cases on what stands behind its opening parenthesis. -/
theorem openGroup_lands (behind : state.Behind whole (.plain '(' :: tokens))
    : Lands engine whole (openGroup engine state tokens) := by
  have cons {first : Token} {rest tokens : List Token} (ends : rest <:+ tokens)
    : rest <:+ first :: tokens :=
    ends.trans (List.suffix_cons _ _)
  unfold openGroup
  dsimp only
  split
  · split
    -- a group with a name
    · refine (upTo_parses '>' [] _).lands fun name rest ends => ?_
      dsimp only
      split
      · exact .malformed
      · exact openCapture_lands behind (cons (cons (cons ends))) _
    -- the text of a group with a name
    · refine (upTo_parses ')' [] _).lands fun name rest ends => ?_
      dsimp only
      split
      · exact .malformed
      split
      · exact .malformed
      · exact pushSame_lands behind (cons (cons (cons (cons ends)))) _
    · exact behind.opens (cons (List.suffix_cons _ _)) rfl rfl rfl _ _
    -- a comment
    · rename_i comment
      have parses := skipComment_parses comment
      cases skipped : skipComment comment with
      | error refusal =>
          rw [skipped] at parses
          obtain rfl : refusal = .malformed := parses
          exact .malformed
      | ok rest =>
          rw [skipped] at parses
          exact behind.further (cons (cons (cons parses))) rfl rfl rfl
    · exact behind.opens (cons (List.suffix_cons _ _)) rfl rfl rfl _ _
    · exact behind.opens (cons (List.suffix_cons _ _)) rfl rfl rfl _ _
    · split
      · exact .malformed
      · refine behind.opens (cons (cons (List.suffix_cons _ _))) ?_ ?_ ?_ _ _ <;> rfl
    -- a condition
    · rename_i condition
      cases read : Token.upTo ')' [] condition with
      | error refusal =>
          have parses := upTo_parses ')' [] condition
          rw [read] at parses
          obtain rfl : refusal = .malformed := parses
          exact .malformed
      | ok named =>
          obtain ⟨name, rest⟩ := named
          have ends := upTo_parses ')' [] condition
          rw [read] at ends
          have stands (all : ∀ c ∈ name, Text.isAsciiDigit c) : HasDigits whole name := by
            obtain ⟨run, rfl, split⟩ := upTo_digits read all
            refine ⟨all, .trans ⟨[], _, split.symm⟩ ?_⟩
            exact (cons (cons (List.suffix_cons _ _))).isInfix.trans behind.ends.isInfix
          cases found : conditionGroup state name with
          | error refusal =>
              have refused : refusal.At engine whole := conditionGroup_error stands found
              simpa only [bind, Except.bind, found] using! refused
          | ok condition =>
              simp only [bind, Except.bind, found]
              split
              · exact .malformed
              · refine behind.opens (cons (cons ends)) ?_ ?_ ?_ _ _ <;> rfl
    · exact behind.opens (cons (List.suffix_cons _ _)) rfl rfl rfl _ _
    · split
      · exact flagGroup_lands behind
      · exact .malformed
    · exact .malformed
  · exact openCapture_lands behind (List.suffix_refl _) none

/-- A part of a sequence, by cases on the part. -/
theorem readPart_lands {token : Token} (behind : state.Behind whole (token :: tokens))
    : Lands engine whole (readPart engine state token tokens) := by
  have stays {next : ReaderState} {rest : List Token} (ends : rest <:+ tokens)
    (depth : next.outer.length = state.outer.length)
    (ascii : next.globalAscii = state.globalAscii)
    (unicode : next.globalUnicode = state.globalUnicode)
    : next.Behind whole rest :=
    behind.further (ends.trans (List.suffix_cons _ _)) depth ascii unicode
  have here : state.Behind whole tokens := stays (List.suffix_refl _) rfl rfl rfl
  unfold readPart
  dsimp only
  split
  · exact .malformed
  · refine (escape_parses _ _ tokens).lands fun meaning rest ends => ?_
    dsimp only
    split
    · exact stays ends rfl rfl rfl
    · exact pushSame_lands here ends _
  split
  · exact here
  split
  · exact stays (skipLine_suffix tokens) rfl rfl rfl
  split
  · refine (charClass_parses _ tokens).lands fun cls rest ends => ?_
    exact stays ends rfl rfl rfl
  · exact stays (List.suffix_refl _) rfl rfl rfl
  · exact stays (List.suffix_refl _) rfl rfl rfl
  · exact stays (List.suffix_refl _) rfl rfl rfl
  · exact openGroup_lands behind
  · exact repeatLast_lands here 0 (some 1)
  · exact repeatLast_lands here 0 none
  · exact repeatLast_lands here 1 none
  · have bounded : Bounded engine whole tokens _ := bounds?_bounded here.ends
    cases read : bounds? tokens with
    | error refusal =>
        rw [read] at bounded
        exact bounded
    | ok bounds =>
        rw [read] at bounded
        cases bounds with
        | none => exact stays (List.suffix_refl _) rfl rfl rfl
        | some found => exact repeatLast_lands (stays bounded rfl rfl rfl) _ _
  · exact stays (List.suffix_refl _) rfl rfl rfl

-----------------------------------------------------------------------------------------
-- Patterns
-----------------------------------------------------------------------------------------

/-- At the end nothing is refused but for the grammar and for flags that clash. -/
theorem finalCheck_error {unbalanced : Bool} {refusal : Refusal}
    (behind : state.Behind whole tokens) (refused : finalCheck state unbalanced = .error refusal)
    : refusal.At engine whole := by
  unfold finalCheck at refused
  split at refused
  · rename_i both
    cases refused
    obtain ⟨ascii, unicode⟩ := Bool.and_eq_true_iff.mp both
    exact .flagsClash (behind.ascii ascii) (behind.unicode unicode)
  split at refused
  · cases refused
    exact .malformed
  · cases refused

theorem nextAlternative_eq {state next : ReaderState} (ended : nextAlternative state = .ok next)
    : next.outer = state.outer
      ∧ next.globalAscii = state.globalAscii
      ∧ next.globalUnicode = state.globalUnicode := by
  unfold nextAlternative at ended
  dsimp only at ended
  split at ended <;> cases ended
  exact ⟨rfl, rfl, rfl⟩

theorem nextAlternative_error {state : ReaderState} {refusal : Refusal}
    (refused : nextAlternative state = .error refusal)
    : refusal = .malformed := by
  unfold nextAlternative at refused
  dsimp only at refused
  split at refused <;> cases refused
  rfl

/-- A group that is closed leaves the reader behind the end of the group. -/
theorem closeLevel_behind {token : Token} (behind : state.Behind whole (token :: tokens))
    {outer : Level} {outers : List Level} (levels : state.outer = outer :: outers)
    : (closeLevel state outer outers).Behind whole tokens := by
  have kept
    : (closeLevel state outer outers).outer = outers
      ∧ (closeLevel state outer outers).globalAscii = state.globalAscii
      ∧ (closeLevel state outer outers).globalUnicode = state.globalUnicode := by
    unfold closeLevel
    dsimp only
    split
    case h_6 => split <;> exact ⟨rfl, rfl, rfl⟩
    all_goals exact ⟨rfl, rfl, rfl⟩
  have further : state.Behind whole tokens := behind.further (List.suffix_cons _ _) rfl rfl rfl
  have bound := further.depth
  rw [levels, List.length_cons] at bound
  exact {
    ends := further.ends
    depth := by
      rw [kept.1]
      omega
    ascii := kept.2.1 ▸ further.ascii
    unicode := kept.2.2 ▸ further.unicode
  }

/-- Whatever a pattern is refused for stands in it, by induction on its parts. -/
theorem readAll_error {fuel : Nat} {refusal : Refusal} (behind : state.Behind whole tokens)
    (refused : readAll engine fuel state tokens = .error refusal)
    : refusal.At engine whole := by
  induction fuel generalizing state tokens with
  | zero =>
      cases refused
      exact .malformed
  | succ fuel ih =>
      unfold readAll at refused
      split at refused
      · exact finalCheck_error behind refused
      · cases refused
        exact .malformed
      · exact finalCheck_error behind refused
      · exact ih (closeLevel_behind behind ‹_›) refused
      · rename_i rest _
        cases ended : nextAlternative state with
        | error refusal =>
            rw [ended] at refused
            cases refused
            rw [nextAlternative_error ended]
            exact .malformed
        | ok next =>
            rw [ended] at refused
            obtain ⟨outer, ascii, unicode⟩ := nextAlternative_eq ended
            exact ih (behind.further (List.suffix_cons _ _) (congrArg _ outer) ascii unicode)
              refused
      · rename_i token rest _ _ _
        have lands : Lands engine whole _ := readPart_lands behind
        cases read : readPart engine state token rest with
        | error refusal =>
            rw [read] at refused lands
            cases refused
            exact lands
        | ok found =>
            rw [read] at refused lands
            exact ih lands refused

-----------------------------------------------------------------------------------------
-- Texts
-----------------------------------------------------------------------------------------

/-- The characters of a part of a pattern. -/
def Token.chars : Token → List Char
  | .plain c => [c]
  | .escaped c => ['\\', c]
  | .broken => ['\\']

/-- A text has the characters of its parts, in order. -/
theorem flatMap_chars (text : List Char) : (Token.ofChars text).flatMap Token.chars = text := by
  fun_induction Token.ofChars text with
  | case1 => rfl
  | case2 => rfl
  | case3 c rest ih | case4 c rest _ _ ih =>
      rw [List.flatMap_cons, ih]
      rfl

/-- Characters that stand among the parts of a text stand in the text. -/
theorem infix_of_tokens {chars text : List Char}
    (within : chars.map .plain <:+: Token.ofChars text)
    : chars <:+: text := by
  obtain ⟨before, after, same⟩ := within
  have own : (chars.map Token.plain).flatMap Token.chars = chars := by
    rw [List.flatMap_map]
    exact List.flatMap_singleton' chars
  refine ⟨before.flatMap Token.chars, after.flatMap Token.chars, ?_⟩
  rw [← flatMap_chars text, ← same, List.flatMap_append, List.flatMap_append, own]

/-- No more parts open groups than there are parentheses among their characters. -/
theorem parentheses_le (tokens : List Token)
    : parentheses tokens ≤ (tokens.flatMap Token.chars).count '(' := by
  induction tokens with
  | nil => exact Nat.le_refl _
  | cons token rest ih =>
      have here : (if token = .plain '(' then 1 else 0) ≤ token.chars.count '(' := by
        split
        · rename_i same
          rw [same]
          exact Nat.le_refl 1
        · exact Nat.zero_le _
      unfold parentheses at ih ⊢
      rw [List.count_cons, List.flatMap_cons, List.count_append]
      simp only [beq_iff_eq]
      omega

/-- A number, flags or a group in a text for which it is not judged as a pattern: there is no room
for the group within those around it, or the pattern cannot be compiled.
-/
inductive Refusal.StandsIn (engine : Engine) (text : List Char) : Refusal → Prop
  | longNumber {digits : List Char} (all : ∀ c ∈ digits, Text.isAsciiDigit c)
    (run : digits <:+: text) (exceeds : maxNumberDigits < digits.length)
    : Refusal.StandsIn engine text (.longNumber digits.length)
  | longRepetition {digits : List Char} (all : ∀ c ∈ digits, Text.isAsciiDigit c)
    (run : digits <:+: text) (exceeds : repetitionLimit ≤ Text.valueIn 10 digits)
    : Refusal.StandsIn engine text .longRepetition
  | flagsClash {first second : List Char} (ascii : 'a' ∈ first) (unicode : 'u' ∈ second)
    (letters : ∀ c ∈ first ++ second, c ∈ flagLetters)
    (one : '(' :: '?' :: (first ++ [')']) <:+: text)
    (other : '(' :: '?' :: (second ++ [')']) <:+: text)
    : Refusal.StandsIn engine text .flagsClash
  | tooDeep {opened rest} (ends : rest <:+ Token.ofChars text)
    (around : opened.length < text.count '(')
    (full : engine.room opened rest = false)
    : Refusal.StandsIn engine text .tooDeep
  | uncompiled (refused : engine.compiles (String.ofList text) = false)
    : Refusal.StandsIn engine text .tooDeep

/-- What the parts of a text are refused for stands in the text. -/
theorem standsIn_of_at {engine : Engine} {text : List Char} {refusal : Refusal}
    (refused : refusal.At engine (Token.ofChars text))
    : refusal = .malformed ∨ refusal.StandsIn engine text := by
  cases refused with
  | malformed => exact .inl rfl
  | longNumber run exceeds => exact .inr (.longNumber run.1 (infix_of_tokens run.2) exceeds)
  | longRepetition run exceeds => exact .inr (.longRepetition run.1 (infix_of_tokens run.2) exceeds)
  | flagsClash ascii unicode =>
      obtain ⟨first, ascii, letters, one⟩ := ascii
      obtain ⟨second, unicode, others, other⟩ := unicode
      have group (letters : List Char)
        : (.plain '(' :: .plain '?' :: (letters.map Token.plain ++ [.plain ')']))
          = ('(' :: '?' :: (letters ++ [')'])).map Token.plain := by
        simp
      rw [group] at one other
      exact .inr (.flagsClash ascii unicode (List.forall_mem_append.mpr ⟨letters, others⟩)
        (infix_of_tokens one) (infix_of_tokens other))
  | tooDeep ends around full =>
      have bound := parentheses_le (Token.ofChars text)
      rw [flatMap_chars] at bound
      exact .inr (.tooDeep ends (Nat.lt_of_lt_of_le around bound) full)

/-- A pattern that does not break the grammar and is refused is refused for what stands in it. -/
theorem parse_error {engine : Engine} {source : String} {refusal : Refusal}
    (refused : parse engine source = .error refusal)
    : refusal = .malformed ∨ refusal.StandsIn engine source.toList := by
  unfold parse at refused
  dsimp only at refused
  cases read
    : readAll engine ((Token.ofChars source.toList).length + 1) .start
        (Token.ofChars source.toList) with
  | error found =>
      rw [read] at refused
      cases refused
      exact standsIn_of_at (readAll_error (.start _) read)
  | ok last =>
      rw [read] at refused
      change ofReader engine source last = _ at refused
      unfold ofReader at refused
      split at refused
      · rename_i uncompiled
        cases refused
        refine .inr (.uncompiled ?_)
        rw [String.ofList_toList]
        exact Bool.not_eq_true' _ ▸ uncompiled
      split at refused
      · cases refused
        exact .inl rfl
      · cases refused

end Conductor.Pattern
