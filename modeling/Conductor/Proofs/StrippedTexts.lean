import Conductor.Text.Blank
import Mathlib.Data.List.DropRight

/-! Lists and texts without what is at their ends. Nothing is left exactly of blank texts, and what
is left has no blank at its ends.
-/

namespace Conductor.Text

section Trimmed

variable {α : Type} (p : α → Bool) (items : List α)

/-- Trimming cuts off at the front and then at the back. -/
theorem trimmed_eq_rdropWhile : trimmed p items = (items.dropWhile p).rdropWhile p := rfl

/-- Trimming leaves nothing exactly when all elements satisfy `p`.
Witness: elements of the leading run satisfy it, and so do the others if they are trimmed away.
-/
theorem trimmed_eq_nil_iff : trimmed p items = [] ↔ ∀ item ∈ items, p item = true := by
  rw [trimmed, List.reverse_eq_nil_iff, List.dropWhile_eq_nil_iff]
  constructor
  · intro others item member
    rw [← List.takeWhile_append_dropWhile (p := p) (l := items), List.mem_append] at member
    rcases member with leading | other
    · exact List.mem_takeWhile_imp leading
    · exact others item (List.mem_reverse.mpr other)
  · intro all item member
    exact all item ((List.dropWhile_sublist p).subset (List.mem_reverse.mp member))

/-- What is trimmed has nothing left to trim.
Witness: what is cut off at the back leaves the first element as it is, if it leaves any.
-/
theorem trimmed_trimmed : trimmed p (trimmed p items) = trimmed p items := by
  have kept : (trimmed p items).dropWhile p = trimmed p items := by
    cases left : trimmed p items with
    | nil => rfl
    | cons first others =>
        obtain ⟨after, whole⟩ := List.rdropWhile_prefix p (items.dropWhile p)
        rw [← trimmed_eq_rdropWhile, left, List.cons_append] at whole
        have stays := List.head?_dropWhile_not p items
        rw [← whole, List.head?_cons] at stays
        rw [List.dropWhile_cons, if_neg (by simpa using stays)]
  rw [trimmed_eq_rdropWhile, kept, trimmed_eq_rdropWhile, List.rdropWhile_idempotent]

/-- The last element that trimming leaves does not satisfy `p`. -/
theorem not_of_mem_getLast?_trimmed {last : α} (ends : last ∈ (trimmed p items).getLast?)
    : ¬p last = true := by
  obtain ⟨some, rfl⟩ := List.mem_getLast?_eq_getLast ends
  exact List.rdropWhile_last_not p (items.dropWhile p) some

end Trimmed

/-- Nothing is left of a string exactly when it consists of blanks. -/
theorem strip_isEmpty (s : String) : (strip s).isEmpty = s.toList.all isBlank := by
  rw [Bool.eq_iff_iff, String.isEmpty_iff, strip, String.ofList_eq_empty_iff, trimmed_eq_nil_iff,
    List.all_eq_true]

/-- What is stripped has no blanks at its ends. -/
theorem strip_strip (s : String) : strip (strip s) = strip s := by
  rw [strip, strip, String.toList_ofList, trimmed_trimmed]

end Conductor.Text
