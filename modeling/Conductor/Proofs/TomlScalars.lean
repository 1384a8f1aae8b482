import Conductor.Proofs.Readers
import Conductor.Toml.Reader

/-! Why a scalar is not read. Strings, dates and times are refused for their grammar only, and a
whole number for its digits if they are too many; a number of no more digits is read.
-/

namespace Conductor.Toml

/-- The digits of a number without the low lines between them. -/
def digitsOf (run : List Char) : List Char :=
  run.filter (· != '_')

/-- The characters that open a list or a table, or a header. -/
def isOpening (c : Char) : Bool :=
  c == '[' || c == '\x7b'

def openings (text : List Char) : Nat :=
  text.countP isOpening

/-- A reason to refuse a text that stands in it: a number of too many digits, or a place for which
there is no room. The brackets that are open there, and those that are still to come, are no more
than told.
-/
inductive Refusal.Within (room : Room) (text : List Char) (depth : Nat) : Refusal → Prop
  | malformed : Refusal.Within room text depth .malformed
  | longNumber {run : List Char} (all : ∀ c ∈ run, Text.isAsciiDigit c ∨ c = '_')
    (stands : run <:+: text) (exceeds : maxDigits < (digitsOf run).length)
    : Refusal.Within room text depth (.longNumber (digitsOf run).length)
  | tooDeep {opened : List Bracket} {rest : List Char} (ends : rest <:+ text)
    (around : opened.length + openings rest ≤ depth) (full : room opened rest = false)
    : Refusal.Within room text depth .tooDeep

variable {room : Room}

theorem Refusal.Within.mono {text rest : List Char} {depth less : Nat} {refusal : Refusal}
    (inner : refusal.Within room rest less) (ends : rest <:+ text) (deeper : less ≤ depth)
    : refusal.Within room text depth := by
  cases inner with
  | malformed => exact .malformed
  | longNumber all stands exceeds => exact .longNumber all (stands.trans ends.isInfix) exceeds
  | tooDeep within around full =>
      exact .tooDeep (within.trans ends) (Nat.le_trans around deeper) full

/-- What a reader refuses for its grammar only, it refuses within every limit. -/
theorem within_of_grammar {α : Type} {good : α → Prop} {result : Except Refusal α}
    (given : Gives (· = .malformed) good result) (text : List Char) (depth : Nat)
    : Gives (Refusal.Within room text depth) good result := by
  refine given.weaken ?_ fun _ holds => holds
  rintro _ rfl
  exact .malformed

/-- What is refused of an end of a text stands in the text. -/
theorem within_of_suffix {α : Type} {good : α → Prop} {result : Except Refusal α}
    {text rest : List Char} {depth less : Nat}
    (given : Gives (Refusal.Within room rest less) good result) (ends : rest <:+ text)
    (deeper : less ≤ depth)
    : Gives (Refusal.Within room text depth) good result :=
  given.weaken (fun _ inner => inner.mono ends deeper) fun _ holds => holds

-----------------------------------------------------------------------------------------
-- Strings
-----------------------------------------------------------------------------------------

/-- A reader that refuses a text for its grammar only. -/
abbrev Parses {α : Type} (text : List Char) (result : Except Refusal (α × List Char)) : Prop :=
  Reads (· = .malformed) text result

/-- A reader of a text that may not start with what it reads. -/
abbrev Tries {α : Type} (refused : Refusal → Prop) (text : List Char)
    (result : Except Refusal (Option (α × List Char))) : Prop :=
  Gives refused (fun found => ∀ pair ∈ found, pair.2 <:+ text) result

theorem Tries.found {α : Type} {refused : Refusal → Prop} {text rest : List Char} {value : α}
    (ends : rest <:+ text)
    : Tries refused text (.ok (some (value, rest))) := by
  rintro _ ⟨⟩
  exact ends

theorem Tries.within {α : Type} {refused : Refusal → Prop} {text rest : List Char}
    {result : Except Refusal (Option (α × List Char))} (tried : Tries refused rest result)
    (ends : rest <:+ text)
    : Tries refused text result :=
  tried.weaken (fun _ reason => reason) fun _ inner pair member => (inner pair member).trans ends

/-- What follows what is read tries the rest. -/
theorem Tries.bind {α β : Type} {refused : Refusal → Prop} {text : List Char}
    {first : Except Refusal (α × List Char)}
    {after : α × List Char → Except Refusal (Option (β × List Char))}
    (read : Reads refused text first)
    (next : ∀ value rest, Tries refused rest (after (value, rest)))
    : Tries refused text (first >>= after) :=
  Gives.bind read fun found ends => (next found.1 found.2).within ends

theorem literalString_parses (text : List Char) : Parses text (literalString text) := by
  unfold literalString
  rw [List.span_eq_takeWhile_dropWhile]
  have ends : text.dropWhile (· != '\'') <:+ text := List.dropWhile_suffix _
  cases left : text.dropWhile (· != '\'') with
  | nil => exact rfl
  | cons c rest =>
      rw [left] at ends
      dsimp only
      split
      · exact rfl
      · exact (List.suffix_cons c rest).trans ends

theorem literalLines_parses (done text : List Char) : Parses text (literalLines done text) := by
  fun_induction literalLines done text with
  | case1 done rest => exact ⟨['\'', '\'', '\''], rfl⟩
  | case2 => exact rfl
  | case3 done c rest _ _ ih => exact ih.behind
  | case4 => exact rfl

theorem basicString_parses (multiline : Bool) (skip : Skip) (done text : List Char)
    : Parses text (basicString multiline skip done text) := by
  fun_induction basicString multiline skip done text with
  | case1 | case4 | case10 | case12 | case16 | case17 | case18 => exact rfl
  | case2 | case3 | case5 | case8 | case19 =>
      rename_i ih
      exact ih.behind
  | case6 => exact List.suffix_cons _ _
  | case7 => exact List.suffix_append ['"', '"', '"'] _
  | case9 =>
      rename_i ih
      exact ih.within (List.suffix_append ['\\', 'u', _, _, _, _] _)
  | case11 =>
      rename_i ih
      exact ih.within (List.suffix_append ['\\', 'U', _, _, _, _, _, _, _, _] _)
  | case13 | case14 | case15 =>
      rename_i ih
      exact ih.behind.behind

theorem withQuotes_suffix (quote : Char) (body rest : List Char)
    : (withQuotes quote body rest).2 <:+ rest := by
  unfold withQuotes
  split
  · split
    · exact List.suffix_append [_, _] _
    · split
      · exact List.suffix_cons _ _
      · exact List.suffix_refl _
  · split
    · exact List.nil_suffix
    · exact List.suffix_refl _
  · exact List.suffix_refl _

theorem afterLineEnd_suffix (text : List Char) : afterLineEnd text <:+ text := by
  unfold afterLineEnd
  split
  · exact List.suffix_cons _ _
  · exact List.suffix_refl _

theorem string?_tries (text : List Char) : Tries (· = .malformed) text (string? text) := by
  unfold string?
  split
  · rename_i rest
    have start := (afterLineEnd_suffix rest).trans (List.suffix_append ['"', '"', '"'] rest)
    exact Tries.bind ((basicString_parses _ _ _ _).within start) fun body rest =>
      .found (withQuotes_suffix _ body rest)
  · exact Tries.bind (basicString_parses _ _ _ _).behind fun body rest =>
      .found (List.suffix_refl rest)
  · rename_i rest
    have start := (afterLineEnd_suffix rest).trans (List.suffix_append ['\'', '\'', '\''] rest)
    exact Tries.bind ((literalLines_parses _ _).within start) fun body rest =>
      .found (withQuotes_suffix _ body rest)
  · rename_i rest _
    have read : Parses ('\'' :: rest) (literalString rest) := (literalString_parses rest).behind
    cases found : literalString rest with
    | error refusal =>
        rw [found] at read
        exact read
    | ok pair =>
        rw [found] at read
        exact .found read
  · exact nofun

-----------------------------------------------------------------------------------------
-- Dates and times
-----------------------------------------------------------------------------------------

theorem day?_suffix {text rest : List Char} {day : Nat × Nat × Nat}
    (found : day? text = some (day, rest))
    : rest <:+ text := by
  unfold day? at found
  split at found
  · simp only [bind, Option.bind_eq_some_iff, Option.some.injEq, Prod.mk.injEq] at found
    obtain ⟨_, _, _, _, _, _, _, rfl⟩ := found
    exact List.suffix_append [_, _, _, _, _, _, _, _, _, _] _
  · cases found

theorem clock?_suffix {text rest : List Char} {clock : TimeOfDay}
    (found : clock? text = some (clock, rest))
    : rest <:+ text := by
  unfold clock? at found
  split at found
  · rename_i a b c d e f behind
    have whole : behind <:+ a :: b :: ':' :: c :: d :: ':' :: e :: f :: behind :=
      List.suffix_append [a, b, ':', c, d, ':', e, f] behind
    simp only [bind, Option.bind_eq_some_iff] at found
    obtain ⟨_, _, _, _, _, _, found⟩ := found
    split at found
    · rename_i after
      split at found
      · cases found
        exact whole
      · cases found
        exact ((List.drop_suffix _ after).trans (List.suffix_cons _ _)).trans whole
    · cases found
      exact whole
  · cases found

theorem offset_suffix (text : List Char) : (offset text).2 <:+ text := by
  unfold offset
  split
  · exact List.suffix_cons _ _
  · exact List.suffix_cons _ _
  · rename_i sign a b c d rest _ _
    have behind : rest <:+ sign :: a :: b :: ':' :: c :: d :: rest :=
      List.suffix_append [sign, a, b, ':', c, d] rest
    split
    · dsimp only
      split
      · exact behind
      split
      · exact behind
      · exact List.suffix_refl _
    · exact List.suffix_refl _
  · exact List.suffix_refl _

theorem clockAfter?_suffix {text rest : List Char} {clock : TimeOfDay}
    (found : clockAfter? text = some (clock, rest))
    : rest <:+ text := by
  unfold clockAfter? at found
  split at found
  · split at found
    · exact (clock?_suffix found).trans (List.suffix_cons _ _)
    · cases found
  · cases found

theorem moment?_tries (text : List Char) : Tries (· = .malformed) text (moment? text) := by
  unfold moment?
  split
  · rintro ⟨moment, rest⟩ member
    obtain ⟨⟨clock, behind⟩, found, same⟩ := Option.map_eq_some_iff.mp member
    cases same
    exact clock?_suffix found
  · rename_i year month day rest found
    have ends := day?_suffix found
    split
    · exact rfl
    · exact .found ends
    · rename_i clock behind _ timed
      exact .found ((offset_suffix behind).trans ((clockAfter?_suffix timed).trans ends))

-----------------------------------------------------------------------------------------
-- Numbers
-----------------------------------------------------------------------------------------

/-- Digits are read off a run of digits and low lines in front of the rest. -/
theorem digitRun_eq {isDigit : Char → Bool} (other : isDigit '_' = false) (done text : List Char)
    : ∃ run,
        run ++ (digitRun isDigit done text).2 = text
        ∧ (∀ c ∈ run, isDigit c ∨ c = '_')
        ∧ (digitRun isDigit done text).1 = done.reverse ++ digitsOf run := by
  have digit {c : Char} (is : isDigit c) (run : List Char)
    : digitsOf (c :: run) = c :: digitsOf run := by
    have line : c ≠ '_' := by
      rintro rfl
      exact absurd is (by rw [other]; decide)
    simp [digitsOf, line]
  fun_induction digitRun isDigit done text with
  | case1 | case3 | case5 => exact ⟨[], rfl, nofun, (List.append_nil _).symm⟩
  | case2 done d rest holds ih =>
      obtain ⟨run, whole, all, read⟩ := ih
      have is : isDigit d := (Bool.and_eq_true_iff.mp holds).2
      refine ⟨'_' :: d :: run, by rw [List.cons_append, List.cons_append, whole], ?_, ?_⟩
      · exact List.forall_mem_cons.mpr ⟨.inr rfl, List.forall_mem_cons.mpr ⟨.inl is, all⟩⟩
      · have line : digitsOf ('_' :: d :: run) = digitsOf (d :: run) := rfl
        rw [read, line, digit is, List.reverse_cons, List.append_assoc, List.singleton_append]
  | case4 done c rest _ is ih =>
      obtain ⟨run, whole, all, read⟩ := ih
      refine ⟨c :: run, by rw [List.cons_append, whole], ?_, ?_⟩
      · exact List.forall_mem_cons.mpr ⟨.inl is, all⟩
      · rw [read, digit is, List.reverse_cons, List.append_assoc, List.singleton_append]

theorem digitRun_suffix {isDigit : Char → Bool} (other : isDigit '_' = false)
    {done text digits rest : List Char} (taken : digitRun isDigit done text = (digits, rest))
    : rest <:+ text := by
  obtain ⟨run, whole, _⟩ := digitRun_eq other done text
  rw [taken] at whole
  exact ⟨run, whole⟩

theorem basedNumber?_suffix {text rest : List Char} {n : Nat}
    (found : basedNumber? text = some (n, rest))
    : rest <:+ text := by
  unfold basedNumber? at found
  dsimp only at found
  split at found
  case h_4 => cases found
  all_goals
    split at found
    · cases found
    · rename_i taken
      cases found
      exact (digitRun_suffix (by decide) taken).trans (List.suffix_append [_, _] _)

/-- The digits of the whole part of a number stand in front of the rest. -/
theorem wholeDigits_eq (text : List Char)
    : ∃ run,
        run ++ (wholeDigits text).2 = text
        ∧ (∀ c ∈ run, Text.isAsciiDigit c ∨ c = '_')
        ∧ (wholeDigits text).1 = digitsOf run := by
  unfold wholeDigits
  split
  · exact ⟨['0'], rfl, List.forall_mem_singleton.mpr (.inl (by decide)), rfl⟩
  · exact digitRun_eq (by decide) [] text

theorem fractionDigits_suffix (text : List Char) : (fractionDigits text).2 <:+ text := by
  unfold fractionDigits
  split
  · split
    · exact List.suffix_refl _
    · rename_i taken
      exact (digitRun_suffix (by decide) taken).trans (List.suffix_cons _ _)
  · exact List.suffix_refl _

theorem power?_suffix {text rest : List Char} {power : Int}
    (found : power? text = some (power, rest))
    : rest <:+ text := by
  unfold power? at found
  dsimp only at found
  split at found
  case h_2 => cases found
  split at found
  case isFalse => cases found
  split at found
  all_goals
    split at found
    case h_1 => cases found
    rename_i taken
    cases found
    refine (digitRun_suffix (by decide) taken).trans ?_
  · exact List.suffix_append [_, _] _
  · exact List.suffix_append [_, _] _
  · exact List.suffix_cons _ _

theorem signed_suffix (text : List Char) : (signed text).2 <:+ text := by
  unfold signed
  split
  · exact List.suffix_cons _ _
  · exact List.suffix_cons _ _
  · exact List.suffix_refl _

theorem number?_tries (text : List Char)
    : Tries (Refusal.Within room text 0) text (number? text) := by
  unfold number?
  split
  · rename_i n rest found
    exact .found (basedNumber?_suffix found)
  · dsimp only
    have body := signed_suffix text
    obtain ⟨run, whole, all, digits⟩ := wholeDigits_eq (signed text).2
    have behind : (wholeDigits (signed text).2).2 <:+ text := List.IsSuffix.trans ⟨run, whole⟩ body
    split
    · split
      · rename_i same
        rw [same] at body
        exact .found ((List.suffix_append ['i', 'n', 'f'] _).trans body)
      · rename_i same
        rw [same] at body
        exact .found ((List.suffix_append ['n', 'a', 'n'] _).trans body)
      · exact nofun
    · have fraction := (fractionDigits_suffix (wholeDigits (signed text).2).2).trans behind
      split
      · split
        · rename_i exceeds
          have stands : run <:+: text := by
            have front : run <+: (signed text).2 := ⟨_, whole⟩
            exact front.isInfix.trans body.isInfix
          rw [digits] at exceeds ⊢
          exact .longNumber all stands exceeds
        · exact .found fraction
      · refine .found (List.IsSuffix.trans ?_ fraction)
        cases powered : power? (fractionDigits (wholeDigits (signed text).2).2).2 with
        | none => exact List.suffix_refl _
        | some found => exact power?_suffix powered

theorem scalar_reads (text : List Char)
    : Reads (Refusal.Within room text 0) text (scalar text) := by
  unfold scalar
  refine Gives.bind (within_of_grammar (string?_tries text) _ _) ?_
  intro string ends
  cases string with
  | some found => exact ends found rfl
  | none =>
      dsimp only
      split
      · exact List.suffix_append ['t', 'r', 'u', 'e'] _
      · exact List.suffix_append ['f', 'a', 'l', 's', 'e'] _
      · refine Gives.bind (within_of_grammar (moment?_tries text) _ _) ?_
        intro moment ends
        cases moment with
        | some found => exact ends found rfl
        | none =>
            refine Gives.bind (number?_tries text) ?_
            intro number ends
            cases number with
            | some found => exact ends found rfl
            | none => exact .malformed

-----------------------------------------------------------------------------------------
-- Digits
-----------------------------------------------------------------------------------------

theorem digitRun_digits {digits : List Char} (all : ∀ c ∈ digits, Text.isAsciiDigit c)
    (done : List Char)
    : digitRun Text.isAsciiDigit done digits = (done.reverse ++ digits, []) := by
  fun_induction digitRun Text.isAsciiDigit done digits with
  | case1 done => rw [List.append_nil]
  | case2 | case3 => exact absurd (all '_' List.mem_cons_self) (by decide)
  | case4 done c rest _ is ih =>
      rw [ih fun d member => all d (List.mem_cons_of_mem c member), List.reverse_cons,
        List.append_assoc]
      rfl
  | case5 done c rest _ other => exact absurd (all c List.mem_cons_self) other

theorem moment?_digits {digits : List Char} (all : ∀ c ∈ digits, Text.isAsciiDigit c)
    : moment? digits = .ok none := by
  have day : day? digits = none := by
    unfold day?
    split
    · exact absurd (all '-' (by simp)) (by decide)
    · rfl
  have clock : clock? digits = none := by
    unfold clock?
    split
    · exact absurd (all ':' (by simp)) (by decide)
    · rfl
  rw [moment?, day, clock]
  rfl

/-- Digits that do not start with a zero are a whole number, unless they are too many. -/
theorem scalar_digits {first : Char} {digits : List Char} (positive : first ≠ '0')
    (all : ∀ c ∈ first :: digits, Text.isAsciiDigit c)
    : scalar (first :: digits)
      = if maxDigits < (first :: digits).length then
          .error (.longNumber (first :: digits).length)
        else .ok (.int (Text.valueIn 10 (first :: digits)), []) := by
  have head {c : Char} {rest : List Char} (same : first :: digits = c :: rest)
      : Text.isAsciiDigit c ∧ c ≠ '0' := by
    cases same
    exact ⟨all first List.mem_cons_self, positive⟩
  have string : string? (first :: digits) = .ok none := by
    unfold string?
    split <;> try rfl
    all_goals
      rename_i same
      exact absurd (head same).1 (by decide)
  have based : basedNumber? (first :: digits) = none := by
    unfold basedNumber?
    dsimp only
    split <;> try rfl
    all_goals
      rename_i same
      exact absurd rfl (head same).2
  have sign : signed (first :: digits) = (false, first :: digits) := by
    unfold signed
    split <;> try rfl
    all_goals
      rename_i same
      exact absurd (head same).1 (by decide)
  have whole : wholeDigits (first :: digits) = (first :: digits, []) := by
    unfold wholeDigits
    split
    · rename_i same
      exact absurd rfl (head same).2
    · exact digitRun_digits all []
  have number
    : number? (first :: digits)
      = if maxDigits < (first :: digits).length then
          .error (.longNumber (first :: digits).length)
        else .ok (some (.int (Text.valueIn 10 (first :: digits)), [])) := by
    rw [number?, based]
    simp only [sign, whole]
    rfl
  unfold scalar
  rw [string]
  simp only [bind, Except.bind]
  split
  · rename_i same
    exact absurd (head same).1 (by decide)
  · rename_i same
    exact absurd (head same).1 (by decide)
  · rw [moment?_digits all, number]
    by_cases exceeds : maxDigits < (first :: digits).length
    · simp only [exceeds, if_true]
    · simp only [exceeds, if_false]

end Conductor.Toml
