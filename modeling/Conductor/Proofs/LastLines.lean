import Conductor.ChildProcess
import Conductor.Proofs.StrippedTexts

/-! The lines of texts, and the last lines of what a process has written. A text that does not stop
at the end of a line is put together again from any of its last lines by line feeds, whatever ended
them before.
-/

namespace Conductor

namespace Text

-----------------------------------------------------------------------------------------
-- Ends of lines
-----------------------------------------------------------------------------------------

/-- The characters that end a line. -/
def lineEnds : List Char :=
  ['\n', '\x0b', '\x0c', '\r', '\x1c', '\x1d', '\x1e', '\u0085', '\u2028', '\u2029']

/-- The text has no end of a line in it. -/
def Unbroken (line : List Char) : Prop := ∀ c ∈ line, c ∉ lineEnds

/-- A text ends one line in front of others: it is a carriage return with the line feed behind it,
or any of the characters that end a line otherwise.
-/
inductive EndsLine : List Char → List Char → Prop
  | pair (rest : List Char) : EndsLine ['\r', '\n'] rest
  | single {c : Char} {rest : List Char} (ends : c ∈ lineEnds)
    (alone : c = '\r' → rest.head? ≠ some '\n')
    : EndsLine [c] rest

/-- A text consists of lines, each with its end; only the last may have none, if it is not empty. -/
inductive HasLines : List Char → List (List Char) → Prop
  | nil : HasLines [] []
  | last {line : List Char} (whole : Unbroken line) (filled : line ≠ []) : HasLines line [line]
  | ended {line ending rest : List Char} {lines : List (List Char)} (whole : Unbroken line)
    (ends : EndsLine ending rest) (more : HasLines rest lines)
    : HasLines (line ++ ending ++ rest) (line :: lines)

theorem Unbroken.append {line more : List Char} (whole : Unbroken line) (whole' : Unbroken more)
    : Unbroken (line ++ more) := fun c member =>
  (List.mem_append.mp member).elim (whole c) (whole' c)

theorem isLineEnd_iff {c : Char} : isLineEnd c = true ↔ c ∈ lineEnds := by
  have codes
      : lineEnds.map Char.toNat = [10, 11, 12, 13, 0x1C, 0x1D, 0x1E, 0x85, 0x2028, 0x2029] := by
    decide
  have injective : Function.Injective Char.toNat := fun _ _ => Char.toNat_inj.mp
  rw [← List.mem_map_of_injective injective, codes]
  simp [isLineEnd]
  omega

/-- Whatever ends a line is blank. -/
theorem isBlank_of_mem_lineEnds {c : Char} (ends : c ∈ lineEnds) : isBlank c = true := by
  have blank : lineEnds.all isBlank = true := by decide
  exact List.all_eq_true.mp blank c ends

theorem EndsLine.getLast_mem {ending rest : List Char} (ends : EndsLine ending rest)
    : ∃ c ∈ ending.getLast?, c ∈ lineEnds := by
  cases ends with
  | pair => exact ⟨'\n', rfl, by decide⟩
  | single ends => exact ⟨_, rfl, ends⟩

-----------------------------------------------------------------------------------------
-- Lines are read where they are
-----------------------------------------------------------------------------------------

section Reading

variable {done lines : List (List Char)} {line ending rest cs : List Char} {c : Char}

theorem linesFrom_cons (alone : c = '\r' → rest.head? ≠ some '\n')
    : linesFrom done line (c :: rest)
      = if isLineEnd c then linesFrom (line.reverse :: done) [] rest
        else linesFrom done (c :: line) rest := by
  rw [linesFrom]
  rintro rest' rfl rfl
  exact alone rfl rfl

/-- Characters that end no line are added to the current line, by induction on them. -/
theorem linesFrom_unbroken {more : List Char} (whole : Unbroken more)
    : linesFrom done line (more ++ rest) = linesFrom done (more.reverse ++ line) rest := by
  induction more generalizing line with
  | nil => rfl
  | cons c more ih =>
      have inside : c ∉ lineEnds := whole c List.mem_cons_self
      have alone : c = '\r' → (more ++ rest).head? ≠ some '\n' := by
        rintro rfl
        exact absurd (by decide) inside
      rw [List.cons_append, linesFrom_cons alone, if_neg (mt isLineEnd_iff.mp inside),
        ih fun c member => whole c (List.mem_cons_of_mem _ member), List.reverse_cons,
        List.append_assoc, List.singleton_append]

/-- The end of a line finishes the current line. -/
theorem linesFrom_ending (ends : EndsLine ending rest)
    : linesFrom done line (ending ++ rest) = linesFrom (line.reverse :: done) [] rest := by
  cases ends with
  | pair => rfl
  | single ends alone =>
      rw [List.singleton_append, linesFrom_cons alone, if_pos (isLineEnd_iff.mpr ends)]

/-- The lines of a text are read behind those that are done, by induction on the lines. -/
theorem HasLines.linesFrom_eq (has : HasLines cs lines)
    : linesFrom done [] cs = done.reverse ++ lines := by
  induction has generalizing done with
  | nil => simp [linesFrom]
  | @last line whole filled =>
      calc linesFrom done [] line
        _ = linesFrom done [] (line ++ []) := by rw [List.append_nil]
        _ = linesFrom done (line.reverse ++ []) [] := linesFrom_unbroken whole
        _ = done.reverse ++ [line] := by simp [linesFrom, filled]
  | ended whole ends _ ih =>
      rw [List.append_assoc, linesFrom_unbroken whole, linesFrom_ending ends, ih]
      simp

/-- What is read, behind the lines that are done, are the lines of the text that begins with the
current line.
Witness: by the cases of a reading; each end leaves the rest as a text of its own.
-/
theorem linesFrom_hasLines (whole : Unbroken line.reverse)
    : ∃ lines,
        linesFrom done line cs = done.reverse ++ lines ∧ HasLines (line.reverse ++ cs) lines := by
  have nothing : Unbroken [] := by simp [Unbroken]
  fun_induction linesFrom done line cs with
  | case1 done line =>
      rw [List.append_nil]
      cases line with
      | nil => exact ⟨[], by simp, .nil⟩
      | cons c line => exact ⟨[(c :: line).reverse], by simp, .last whole (by simp)⟩
  | case2 done line rest ih =>
      obtain ⟨lines, read, has⟩ := ih nothing
      refine ⟨line.reverse :: lines, by simp [read], ?_⟩
      simpa using HasLines.ended whole (.pair rest) has
  | case3 done line c rest apart ends ih =>
      -- A carriage return that is followed by a line feed is the case before.
      obtain ⟨lines, read, has⟩ := ih nothing
      have alone : c = '\r' → rest.head? ≠ some '\n' := by
        intro returns feeds
        obtain ⟨more, same⟩ := List.head?_eq_some_iff.mp feeds
        exact apart more returns same
      refine ⟨line.reverse :: lines, by simp [read], ?_⟩
      simpa using HasLines.ended whole (.single (isLineEnd_iff.mp ends) alone) has
  | case4 done line c rest _ inside ih =>
      have longer : Unbroken (c :: line).reverse := by
        rw [List.reverse_cons]
        exact whole.append (by simpa [Unbroken, isLineEnd_iff] using inside)
      simpa using ih longer

/-- The lines that are read are those of which the text consists. -/
theorem charLines_eq_iff : charLines cs = lines ↔ HasLines cs lines := by
  constructor
  · rintro rfl
    have nothing : Unbroken ([] : List Char).reverse := by simp [Unbroken]
    obtain ⟨lines, read, has⟩ := linesFrom_hasLines nothing
    rw [charLines, read]
    exact has
  · exact HasLines.linesFrom_eq

end Reading

-----------------------------------------------------------------------------------------
-- Lines put together again
-----------------------------------------------------------------------------------------

section Joining

variable {lines : List (List Char)} {cs : List Char}

namespace HasLines

theorem unbroken (has : HasLines cs lines) : ∀ line ∈ lines, Unbroken line := by
  induction has with
  | nil => simp
  | last whole => simpa using whole
  | ended whole _ _ ih => simpa using ⟨whole, ih⟩

theorem eq_nil_iff (has : HasLines cs lines) : lines = [] ↔ cs = [] := by
  cases has with
  | nil => simp
  | last _ filled => simpa using filled
  | ended _ ends =>
      obtain ⟨c, last, _⟩ := ends.getLast_mem
      have filled : _ ≠ [] := List.ne_nil_of_mem (List.mem_of_mem_getLast? last)
      simp [filled]

/-- The last line of a text is not empty, unless the text stops at the end of a line.
Witness: an end in front of nothing would be the last of the text.
-/
theorem getLast_ne_nil (has : HasLines cs lines) (stops : ∀ c ∈ cs.getLast?, c ∉ lineEnds)
    : ∀ line ∈ lines.getLast?, line ≠ [] := by
  induction has with
  | nil => simp
  | last _ filled => simpa using filled
  | @ended line ending rest lines _ ends more ih =>
      obtain ⟨c, last, broken⟩ := ends.getLast_mem
      have behind : rest ≠ [] := by
        rintro rfl
        refine stops c ?_ broken
        simp [List.getLast?_append, Option.mem_def.mp last]
      have others : lines ≠ [] := mt more.eq_nil_iff.mp behind
      rw [List.getLast?_append_of_ne_nil _ behind] at stops
      rw [List.getLast?_cons_of_ne_nil others]
      exact ih stops

/-- Lines without ends are the lines of the text in which line feeds join them, by induction on the
lines: the last one is there if it is not empty.
-/
theorem joined (whole : ∀ line ∈ lines, Unbroken line)
    (filled : ∀ line ∈ lines.getLast?, line ≠ [])
    : HasLines (['\n'].intercalate lines) lines := by
  induction lines with
  | nil => exact .nil
  | cons line others ih =>
      have here : Unbroken line := whole line List.mem_cons_self
      cases others with
      | nil =>
          rw [List.intercalate_singleton]
          exact .last here (filled line rfl)
      | cons next others =>
          have feed : EndsLine ['\n'] (['\n'].intercalate (next :: others)) :=
            .single (by decide) (fun returns => absurd returns (by decide))
          rw [List.intercalate_cons_cons]
          refine .ended here feed (ih (fun line member => ?_) ?_)
          · exact whole line (List.mem_cons_of_mem _ member)
          · rwa [List.getLast?_cons_cons] at filled

end HasLines

end Joining

/-- A string consists of lines. -/
def InLines (s : String) (lines : List String) : Prop :=
  HasLines s.toList (lines.map String.toList)

variable {s : String} {all kept : List String}

theorem lines_eq_iff : lines s = all ↔ InLines s all := by
  rw [InLines, ← charLines_eq_iff, lines]
  constructor
  · rintro rfl
    simp
  · intro same
    simp [same]

theorem lines_inLines (s : String) : InLines s (lines s) :=
  lines_eq_iff.mp rfl

theorem lines_eq_nil_iff : lines s = [] ↔ s = "" := by
  have has : HasLines s.toList ((lines s).map String.toList) := lines_inLines s
  rw [← List.map_eq_nil_iff, has.eq_nil_iff, String.toList_eq_nil_iff]

/-- The last lines of a text that does not stop at the end of a line are the lines of the text in
which line feeds join them.
-/
theorem lines_intercalate (stops : ∀ c ∈ s.toList.getLast?, c ∉ lineEnds)
    (last : kept <:+ lines s)
    : lines ("\n".intercalate kept) = kept := by
  have has : HasLines s.toList ((lines s).map String.toList) := lines_inLines s
  have last' : kept.map String.toList <:+ (lines s).map String.toList := last.map _
  rw [lines_eq_iff, InLines, String.toList_intercalate]
  refine .joined (fun line member => has.unbroken line (last'.subset member)) ?_
  intro line ends
  obtain ⟨front, whole⟩ := last'
  refine has.getLast_ne_nil stops line ?_
  rw [← whole, List.getLast?_append, Option.mem_def.mp ends]
  rfl

end Text

-----------------------------------------------------------------------------------------
-- The last lines of the reason
-----------------------------------------------------------------------------------------

namespace ChildProcess.Failure

variable (failure : Failure)

theorem reasonText_eq
    : failure.reasonText
      = if Text.strip failure.stderr ≠ "" then Text.strip failure.stderr
        else Text.strip failure.stdout := by
  simp only [reasonText, String.isEmpty_iff, ite_not]

/-- The reason is a stripped text. -/
theorem reasonText_stripped : ∃ output, failure.reasonText = Text.strip output := by
  rw [reasonText]
  split
  · exact ⟨_, rfl⟩
  · exact ⟨_, rfl⟩

/-- The reason does not stop at the end of a line, which would be blank. -/
theorem reasonText_stops : ∀ c ∈ failure.reasonText.toList.getLast?, c ∉ Text.lineEnds := by
  intro c last ends
  obtain ⟨output, stripped⟩ := failure.reasonText_stripped
  rw [stripped, Text.strip, String.toList_ofList] at last
  exact Text.not_of_mem_getLast?_trimmed _ _ last (Text.isBlank_of_mem_lineEnds ends)

theorem reasonText_eq_empty_iff
    : failure.reasonText = ""
      ↔ (∀ c ∈ failure.stderr.toList, Text.isBlank c = true)
        ∧ ∀ c ∈ failure.stdout.toList, Text.isBlank c = true := by
  have empty (s : String) : Text.strip s = "" ↔ ∀ c ∈ s.toList, Text.isBlank c = true := by
    rw [← String.isEmpty_iff, Text.strip_isEmpty, List.all_eq_true]
  rw [reasonText_eq, ← empty, ← empty]
  by_cases blank : Text.strip failure.stderr = "" <;> simp [blank]

/-- The tail of a failure consists of the last lines of the reason, each as it was.

The reason is the stripped error output or, if nothing is left of it, the stripped output. However
its lines end, and also if some are empty, the tail has as many of its last lines as are asked for,
or all if there are fewer, in order and no others. The tail is empty exactly if both outputs are
blank.
Witness: the reason does not stop at the end of a line, which is blank, so that its last line is not
empty and does not get lost.
-/
theorem tail_keepsLines {count : Int} (positive : 1 ≤ count)
    : let text :=
        if Text.strip failure.stderr ≠ "" then Text.strip failure.stderr
        else Text.strip failure.stdout
      let all := Text.lines text
      let last := all.drop (all.length - count.toNat)
      Text.InLines text all
      ∧ last.length = min count.toNat all.length
      ∧ Text.lines (failure.tail count) = last
      ∧ Text.InLines (failure.tail count) last
      ∧ (failure.tail count = ""
          ↔ (∀ c ∈ failure.stderr.toList, Text.isBlank c = true)
            ∧ ∀ c ∈ failure.stdout.toList, Text.isBlank c = true) := by
  intro text all last
  have reason : failure.reasonText = text := failure.reasonText_eq
  have joins : failure.tail count = "\n".intercalate last := by
    rw [tail, lastItems, if_pos (by omega), reason]
  have counts : last.length = min count.toNat all.length := by
    rw [List.length_drop]
    omega
  have kept : Text.lines (failure.tail count) = last := by
    rw [joins]
    exact Text.lines_intercalate (reason ▸ failure.reasonText_stops) (List.drop_suffix _ _)
  have empty : failure.tail count = "" ↔ all = [] := by
    rw [← Text.lines_eq_nil_iff, kept, ← List.length_eq_zero_iff, counts,
      ← List.length_eq_zero_iff]
    omega
  refine ⟨Text.lines_inLines text, counts, kept, Text.lines_eq_iff.mp kept, ?_⟩
  rw [empty, Text.lines_eq_nil_iff, ← reason, failure.reasonText_eq_empty_iff]

/-- The last three lines of an output, one of them empty, while the error output is blank. The lines
of the output end in all kinds of ways.
-/
theorem tail_keepsLines_mixed
    : let stdout := "\t a\r\nb\x0b\u0085c\u2028d\x1c\n"
      let failure : Failure := ⟨["a"], 1, stdout, "\u2029 \u3000"⟩
      1 ≤ (3 : Int)
      ∧ Text.strip failure.stderr = ""
      ∧ Text.lines (Text.strip failure.stdout) = ["a", "b", "", "c", "d"]
      ∧ Text.lines (failure.tail 3) = ["", "c", "d"]
      ∧ failure.tail 3 ≠ "" := by
  intro stdout failure
  obtain ⟨_, _, kept, _, empty⟩ := failure.tail_keepsLines (by decide : 1 ≤ (3 : Int))
  refine ⟨by decide, by decide +kernel, by decide +kernel, ?_, fun nothing => ?_⟩
  · rw [kept]
    decide +kernel
  · have blank : Text.isBlank 'a' = true := (empty.mp nothing).2 'a' (by decide +kernel)
    exact absurd blank (by decide)

end ChildProcess.Failure

end Conductor
