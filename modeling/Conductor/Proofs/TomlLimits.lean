import Conductor.Proofs.TomlScalars

/-! Why a document is not answered. The reader of a document breaks off, other than for its grammar,
at a whole number of too many digits, or at a value within lists and tables for which the platform
has no room; both stand in the text.
-/

namespace Conductor.Toml

variable {room : Room}

theorem openings_cons {c : Char} (opening : isOpening c) (text : List Char)
    : openings (c :: text) = openings text + 1 :=
  List.countP_cons_of_pos opening

theorem openings_le {rest text : List Char} (ends : rest <:+ text)
    : openings rest ≤ openings text :=
  ends.sublist.countP_le

-----------------------------------------------------------------------------------------
-- Blanks and comments
-----------------------------------------------------------------------------------------

theorem skipBlanks_suffix (text : List Char) : skipBlanks text <:+ text :=
  List.dropWhile_suffix _

theorem skipLines_gives (inComment : Bool) (text : List Char)
    : Gives (· = .malformed) (· <:+ text) (skipLines inComment text) := by
  have behind {c : Char} {rest : List Char} {result : Except Refusal (List Char)}
      (given : Gives (· = .malformed) (· <:+ rest) result)
      : Gives (· = .malformed) (· <:+ c :: rest) result :=
    given.weaken (fun _ reason => reason) fun _ ends => ends.trans (List.suffix_cons c rest)
  fun_induction skipLines inComment text with
  | case1 => exact List.suffix_refl _
  | case3 => exact rfl
  | case7 => exact List.suffix_refl _
  | case2 | case4 | case5 | case6 =>
      rename_i ih
      exact behind ih

theorem skipComment_gives (text : List Char)
    : Gives (· = .malformed) (· <:+ text) (skipComment text) := by
  unfold skipComment
  split
  · rename_i rest
    rw [List.span_eq_takeWhile_dropWhile]
    dsimp only
    split
    · exact rfl
    · exact (List.dropWhile_suffix _).trans (List.suffix_cons _ _)
  · exact List.suffix_refl _

-----------------------------------------------------------------------------------------
-- Keys
-----------------------------------------------------------------------------------------

theorem keyPart_parses (text : List Char) : Parses text (keyPart text) := by
  unfold keyPart
  split
  · exact (basicString_parses false .nothing [] _).behind.bind fun part rest _ => .here _
  · exact (literalString_parses _).behind
  · rw [List.span_eq_takeWhile_dropWhile]
    split
    · exact rfl
    · rename_i same
      cases same
      exact List.dropWhile_suffix _

/-- A key of any number of parts is refused for its grammar alone, by induction on the parts that
may still follow.
-/
theorem keyParts_parses (fuel : Nat) (done : Key) (text : List Char)
    : Parses text (keyParts fuel done text) := by
  induction fuel generalizing done text with
  | zero => exact rfl
  | succ fuel ih =>
      rw [keyParts]
      refine (keyPart_parses text).bind fun part rest ends => ?_
      have blanks := skipBlanks_suffix rest
      dsimp only
      split
      · rename_i after dotted
        rw [dotted] at blanks
        have next := (skipBlanks_suffix after).trans (List.suffix_cons '.' after)
        exact (ih (part :: done) (skipBlanks after)).within (next.trans blanks)
      · exact blanks

theorem readKey_parses (text : List Char) : Parses text (readKey text) :=
  keyParts_parses _ _ text

/-- A key is read with its equals sign. -/
theorem boundKey_parses (text : List Char) : Parses text (boundKey text) := by
  refine Gives.bind (readKey_parses text) ?_
  rintro ⟨key, rest⟩ ends
  dsimp only at ends ⊢
  split
  · rename_i after same
    cases same
    exact ((skipBlanks_suffix after).trans (List.suffix_cons '=' after)).trans ends
  · exact rfl

-----------------------------------------------------------------------------------------
-- Values
-----------------------------------------------------------------------------------------

/-- The text that is still to be read. -/
def Stage.text : Stage → List Char
  | .value text => text
  | .read _ rest => rest

theorem orMalformed_gives {α : Type} (found : Option α)
    : Gives (· = .malformed) (fun _ => True) (orMalformed found) := by
  cases found with
  | none => exact rfl
  | some value => exact trivial

/-- The reader of a value goes on with an end of the text; open frames and the brackets that are
left are no more than told.
-/
structure Proceeds (text : List Char) (depth : Nat) (next : Stage × List Frame) : Prop where
  ends : next.1.text <:+ text
  around : next.2.length + openings next.1.text ≤ depth

/-- As many frames as there were are no more than told. -/
theorem Proceeds.of_suffix {text : List Char} {depth : Nat} {stage : Stage} {stack : List Frame}
    (ends : stage.text <:+ text) (around : stack.length + openings text ≤ depth)
    : Proceeds text depth (stage, stack) :=
  ⟨ends, Nat.le_trans (Nat.add_le_add_left (openings_le ends) _) around⟩

/-- What is opened at the start of a value uses up a bracket. -/
theorem beginValue_gives (room : Room) (stack : List Frame) (text : List Char)
    : Gives (Refusal.Within room text (stack.length + openings text))
        (Proceeds text (stack.length + openings text)) (beginValue room stack text) := by
  unfold beginValue
  split
  · rename_i full
    refine .tooDeep (List.suffix_refl _) ?_ (Bool.not_eq_true' _ ▸ full)
    rw [List.length_map]
  split
  · rename_i rest _
    have opening := @openings_cons '[' (by decide) rest
    refine Gives.bind (within_of_grammar (skipLines_gives false rest) _ _) ?_
    intro behind ends
    have whole := ends.trans (List.suffix_cons '[' rest)
    have fewer := openings_le ends
    split
    · exact .of_suffix ((List.suffix_cons ']' _).trans whole) (Nat.le_refl _)
    · exact ⟨whole, by rw [List.length_cons]; dsimp only [Stage.text]; omega⟩
  · rename_i rest _
    have opening := @openings_cons '\x7b' (by decide) rest
    have ends := skipBlanks_suffix rest
    have whole := ends.trans (List.suffix_cons '\x7b' rest)
    split
    · rename_i after same
      rw [same] at whole
      exact .of_suffix ((List.suffix_cons '\x7d' after).trans whole) (Nat.le_refl _)
    · refine Gives.bind (within_of_grammar (boundKey_parses _) _ _) ?_
      rintro ⟨key, behind⟩ key_ends
      dsimp only at key_ends
      have fewer := openings_le (key_ends.trans ends)
      exact ⟨key_ends.trans whole, by rw [List.length_cons]; dsimp only [Stage.text]; omega⟩
  · refine Gives.bind (within_of_suffix (scalar_reads text) (List.suffix_refl _) (by omega)) ?_
    rintro ⟨value, rest⟩ ends
    exact .of_suffix ends (Nat.le_refl _)

/-- A list or table that goes on stays open, and one that ends does not. -/
theorem endValue_gives (frame : Frame) (stack : List Frame) (value : Value String)
    (rest : List Char)
    : Gives (Refusal.Within room rest ((frame :: stack).length + openings rest))
        (Proceeds rest ((frame :: stack).length + openings rest))
        (endValue frame stack value rest) := by
  have fewer : stack.length + openings rest ≤ (frame :: stack).length + openings rest := by
    rw [List.length_cons]
    omega
  unfold endValue
  split
  · dsimp only
    refine Gives.bind (within_of_grammar (skipLines_gives false rest) _ _) ?_
    intro behind ends
    split
    · exact .of_suffix ((List.suffix_cons ']' _).trans ends) fewer
    · rename_i after
      have next := (List.suffix_cons ',' after).trans ends
      refine Gives.bind (within_of_grammar (skipLines_gives false after) _ _) ?_
      intro items item_ends
      have whole := item_ends.trans next
      split
      · exact .of_suffix ((List.suffix_cons ']' _).trans whole) fewer
      · exact .of_suffix whole (Nat.le_refl _)
    · exact .malformed
  · refine Gives.bind (within_of_grammar (orMalformed_gives _) _ _) ?_
    intro entries _
    have blanks := skipBlanks_suffix rest
    split
    · rename_i after same
      rw [same] at blanks
      exact .of_suffix ((List.suffix_cons '\x7d' after).trans blanks) fewer
    · rename_i after same
      rw [same] at blanks
      have next := (skipBlanks_suffix after).trans ((List.suffix_cons ',' after).trans blanks)
      refine Gives.bind (within_of_grammar (boundKey_parses _) _ _) ?_
      rintro ⟨key, behind⟩ ends
      exact .of_suffix (ends.trans next) (Nat.le_refl _)
    · exact .malformed

/-- A value leads no deeper than its frames and the brackets that are left; by induction on the
steps of its reader.
-/
theorem valueFrom_gives (room : Room) (fuel : Nat) (stage : Stage) (stack : List Frame)
    : Gives (Refusal.Within room stage.text (stack.length + openings stage.text))
        (·.2 <:+ stage.text) (valueFrom room fuel stage stack) := by
  have further {text : List Char} {depth fuel : Nat}
      {step : Except Refusal (Stage × List Frame)}
      (given : Gives (Refusal.Within room text depth) (Proceeds text depth) step)
      (ih
        : ∀ stage stack,
            Gives (Refusal.Within room stage.text (stack.length + openings stage.text))
              (·.2 <:+ stage.text) (valueFrom room fuel stage stack))
      : Gives (Refusal.Within room text depth) (·.2 <:+ text)
          (step >>= fun next => valueFrom room fuel next.1 next.2) := by
    refine given.bind fun next proceeds => (ih next.1 next.2).weaken ?_ ?_
    · intro refusal inner
      exact inner.mono proceeds.ends proceeds.around
    · intro found inner
      exact inner.trans proceeds.ends
  fun_induction valueFrom room fuel stage stack with
  | case1 => exact .malformed
  | case2 fuel stack text ih => exact further (beginValue_gives room stack text) ih
  | case3 fuel value rest => exact List.suffix_refl _
  | case4 fuel value rest frame stack ih =>
      exact further (endValue_gives frame stack value rest) ih

theorem readValue_gives (room : Room) (text : List Char)
    : Gives (Refusal.Within room text (openings text)) (·.2 <:+ text) (readValue room text) := by
  have read := valueFrom_gives room (2 * text.length + 2) (.value text) []
  exact within_of_suffix read (List.suffix_refl _) (Nat.le_of_eq (Nat.zero_add _))

-----------------------------------------------------------------------------------------
-- Statements
-----------------------------------------------------------------------------------------

/-- A header is refused for its grammar alone. -/
theorem header_parses {inner text : List Char} (ends : inner <:+ text)
    {after : Key × List Char → Except Refusal (Position × List Char)}
    (next : ∀ key rest, Parses rest (after (key, rest)))
    : Parses text (readKey (skipBlanks inner) >>= after) :=
  ((readKey_parses _).bind fun key rest _ => next key rest).within
    ((skipBlanks_suffix inner).trans ends)

theorem statement_gives (room : Room) (position : Position) (text : List Char)
    : Reads (Refusal.Within room text (openings text)) text (statement room position text) := by
  unfold statement
  split
  · rename_i rest
    have ends := (List.suffix_cons '[' rest).trans (List.suffix_cons '[' _)
    refine within_of_grammar (header_parses ends fun key rest => ?_) _ _
    refine Gives.bind (orMalformed_gives _) fun draft _ => ?_
    split
    · exact List.suffix_append [']', ']'] _
    · exact rfl
  · rename_i rest _
    refine within_of_grammar (header_parses (List.suffix_cons '[' rest) fun key rest => ?_) _ _
    refine Gives.bind (orMalformed_gives _) fun draft _ => ?_
    split
    · exact List.suffix_cons ']' _
    · exact rfl
  · exact List.suffix_refl _
  · rename_i c rest _ _ _
    split
    · refine Gives.bind (within_of_grammar (boundKey_parses (c :: rest)) _ _) ?_
      rintro ⟨key, behind⟩ ends
      have read := within_of_suffix (readValue_gives room behind) ends (openings_le ends)
      refine Gives.bind read ?_
      rintro ⟨value, last⟩ last_ends
      refine Gives.bind (within_of_grammar (orMalformed_gives _) _ _) fun draft _ => ?_
      exact last_ends.trans ends
    · exact .malformed
  · exact .malformed

theorem linesFrom_gives (room : Room) (fuel : Nat) (position : Position) (text : List Char)
    : Gives (Refusal.Within room text (openings text)) (fun _ => True)
        (linesFrom room fuel position text) := by
  induction fuel generalizing position text with
  | zero => exact .malformed
  | succ fuel ih =>
      have blanks := skipBlanks_suffix text
      rw [linesFrom]
      split
      · exact trivial
      · rename_i rest same
        rw [same] at blanks
        have next := (List.suffix_cons '\n' rest).trans blanks
        exact within_of_suffix (ih position rest) next (openings_le next)
      · have stated :=
          within_of_suffix (statement_gives room position _) blanks (openings_le blanks)
        refine Gives.bind stated ?_
        rintro ⟨later, rest⟩ ends
        dsimp only at ends
        refine Gives.bind (within_of_grammar (skipComment_gives _) _ _) ?_
        intro line line_ends
        split
        · exact trivial
        · rename_i behind
          have next := (List.suffix_cons '\n' behind).trans
            (line_ends.trans (skipBlanks_suffix rest))
          have whole := next.trans (ends.trans blanks)
          exact within_of_suffix (ih later behind) whole (openings_le whole)
        · exact .malformed

-----------------------------------------------------------------------------------------
-- Documents
-----------------------------------------------------------------------------------------

/-- What stands in a line of a text stands on one side of the end of a line. -/
theorem infix_line {run before after : List Char} (line : '\n' ∉ run)
    (stands : run <:+: before ++ '\n' :: after)
    : run <:+: before ∨ run <:+: after := by
  have front {part : List Char} (own : '\n' ∉ part) (starts : part <+: '\n' :: after)
      : part = [] := by
    cases part with
    | nil => rfl
    | cons c part =>
        rw [(List.cons_prefix_cons.mp starts).1] at own
        exact absurd List.mem_cons_self own
  rcases List.infix_append_iff.mp stands with own | own | ⟨first, second, rfl, ends, starts⟩
  · exact .inl own
  · rcases List.infix_cons_iff.mp own with starts | own
    · rw [front line starts]
      exact .inl List.nil_infix
    · exact .inr own
  · have nothing := front (fun member => line (List.mem_append_right _ member)) starts
    rw [nothing, List.append_nil]
    exact .inl ends.isInfix

/-- What stands in a line still does where line ends are not joined. -/
theorem infix_of_joinLineEnds {run : List Char} (line : '\n' ∉ run) (done text : List Char)
    (stands : run <:+: joinLineEnds done text)
    : run <:+: done.reverse ++ text := by
  fun_induction joinLineEnds done text with
  | case1 done => rwa [List.append_nil]
  | case2 done rest ih =>
      have read := ih stands
      rw [List.reverse_cons, List.append_assoc] at read
      rcases infix_line line read with before | after
      · exact before.trans (List.prefix_append _ _).isInfix
      · have behind := List.suffix_append ['\r', '\n'] rest
        exact after.trans (List.suffix_append_of_suffix behind).isInfix
  | case3 done c rest _ ih =>
      have read := ih stands
      rwa [List.reverse_cons, List.append_assoc] at read

/-- Why a document is refused other than for its grammar: for a run of digits in it, or for a value
within open brackets, at the place of which there is no room; as many brackets stand in front of it.
-/
inductive Refusal.StandsIn (room : Room) (text : List Char) : Refusal → Prop
  | malformed : Refusal.StandsIn room text .malformed
  | longNumber {run : List Char} (all : ∀ c ∈ run, Text.isAsciiDigit c ∨ c = '_')
    (stands : run <:+: text) (exceeds : maxDigits < (digitsOf run).length)
    : Refusal.StandsIn room text (.longNumber (digitsOf run).length)
  | tooDeep {opened : List Bracket} {rest : List Char} (ends : rest <:+ joinLineEnds [] text)
    (around : opened.length + openings rest ≤ openings (joinLineEnds [] text))
    (full : room opened rest = false)
    : Refusal.StandsIn room text .tooDeep

/-- A document that is refused is refused for its grammar or for what stands in it. -/
theorem read_error {text : List Char} {refusal : Refusal}
    (refused : read room text = .error refusal)
    : refusal.StandsIn room text := by
  have given :=
    linesFrom_gives room ((joinLineEnds [] text).length + 1) ⟨{}, []⟩ (joinLineEnds [] text)
  unfold read at refused
  rw [refused] at given
  cases (given : Refusal.Within room _ _ refusal) with
  | malformed => exact .malformed
  | longNumber all stands exceeds =>
      have line : '\n' ∉ _ := fun member => absurd (all _ member) (by decide)
      exact .longNumber all (infix_of_joinLineEnds line [] text stands) exceeds
  | tooDeep ends around full => exact .tooDeep ends around full

-----------------------------------------------------------------------------------------
-- Documents of a number
-----------------------------------------------------------------------------------------

theorem joinLineEnds_plain {text : List Char} (plain : '\r' ∉ text) (done : List Char)
    : joinLineEnds done text = done.reverse ++ text := by
  fun_induction joinLineEnds done text with
  | case1 done => rw [List.append_nil]
  | case2 done rest => exact absurd List.mem_cons_self plain
  | case3 done c rest _ ih =>
      rw [ih fun member => plain (List.mem_cons_of_mem c member), List.reverse_cons,
        List.append_assoc]
      rfl

theorem readValue_digits {first : Char} {digits : List Char} (positive : first ≠ '0')
    (all : ∀ c ∈ first :: digits, Text.isAsciiDigit c)
    : readValue room (first :: digits)
      = if !room [] (first :: digits) then .error .tooDeep
        else if maxDigits < (first :: digits).length then
          .error (.longNumber (first :: digits).length)
        else .ok (.int (Text.valueIn 10 (first :: digits)), []) := by
  have head {c : Char} {rest : List Char} (same : first :: digits = c :: rest)
      : Text.isAsciiDigit c := by
    cases same
    exact all first List.mem_cons_self
  have start
    : beginValue room [] (first :: digits)
      = if !room [] (first :: digits) then .error .tooDeep
        else scalar (first :: digits) >>= fun found => .ok (.read found.1 found.2, []) := by
    unfold beginValue
    refine if_congr Iff.rfl rfl ?_
    split
    · rename_i same
      exact absurd (head same) (by decide)
    · rename_i same
      exact absurd (head same) (by decide)
    · rfl
  rw [readValue, valueFrom, start, scalar_digits positive all]
  cases room [] (first :: digits) with
  | false => rfl
  | true =>
      by_cases exceeds : maxDigits < (first :: digits).length
      · simp only [if_pos exceeds]
        rfl
      · simp only [if_neg exceeds]
        rfl

/-- The text of a document whose one key is bound to a number. -/
def numberText (digits : List Char) : String :=
  String.ofList ('a' :: '=' :: digits)

/-- A number is read as the one value of its document, if there is room for one, unless its digits
are too many.
-/
theorem read_numberText {first : Char} {digits : List Char} (positive : first ≠ '0')
    (all : ∀ c ∈ first :: digits, Text.isAsciiDigit c)
    : read room (numberText (first :: digits)).toList
      = if !room [] (first :: digits) then .error .tooDeep
        else if maxDigits < (first :: digits).length then
          .error (.longNumber (first :: digits).length)
        else .ok [("a", .int (Text.valueIn 10 (first :: digits)))] := by
  have plain : '\r' ∉ 'a' :: '=' :: first :: digits := by
    intro member
    rcases List.mem_cons.mp member with same | member
    · exact absurd same (by decide)
    rcases List.mem_cons.mp member with same | member
    · exact absurd same (by decide)
    · exact absurd (all '\r' member) (by decide)
  have dark : ¬isBlank first := by
    have own := all first List.mem_cons_self
    intro blank
    rcases Bool.or_eq_true_iff.mp blank with same | same
    · rw [eq_of_beq same] at own
      exact absurd own (by decide)
    · rw [eq_of_beq same] at own
      exact absurd own (by decide)
  have key : boundKey ('a' :: '=' :: first :: digits) = .ok (["a"], first :: digits) := by
    have value : skipBlanks (first :: digits) = first :: digits := by
      rw [skipBlanks, List.dropWhile_cons_of_neg dark]
    have name : readKey ('a' :: '=' :: first :: digits) = .ok (["a"], '=' :: first :: digits) := rfl
    rw [boundKey, name]
    exact congrArg (fun rest => Except.ok (["a"], rest)) value
  have begun
    : statement room ⟨{}, []⟩ ('a' :: '=' :: first :: digits)
      = boundKey ('a' :: '=' :: first :: digits) >>= fun bound =>
          readValue room bound.2 >>= fun found =>
            orMalformed (Draft.bind {} [] bound.1 found.1) >>= fun draft =>
              .ok (⟨draft, []⟩, found.2) := rfl
  rw [key] at begun
  rw [numberText, String.toList_ofList, read, joinLineEnds_plain plain]
  change (statement room ⟨{}, []⟩ ('a' :: '=' :: first :: digits) >>= _) = _
  rw [begun]
  change (readValue room (first :: digits) >>= _) >>= _ = _
  rw [readValue_digits positive all]
  cases room [] (first :: digits) with
  | false => rfl
  | true =>
      by_cases exceeds : maxDigits < (first :: digits).length
      · simp only [if_pos exceeds]
        rfl
      · simp only [if_neg exceeds]
        rfl

end Conductor.Toml
