import Conductor.Suspension

/-!
Rows of suspensions. A row gets fewer when one of it goes on or drops out; no row gets fewer for
ever, so that what waits in a row is run to its end in whatever order it is picked.
-/

namespace Conductor

variable {β ε α : Type}

/-- Of a row with another element in front, either that element is taken out or one of the row. -/
theorem List.perm_cons_cases {a b : α} {row others : List α} (same : (a :: row).Perm (b :: others))
    : a = b ∧ row.Perm others ∨ ∃ rest, row.Perm (b :: rest) ∧ others.Perm (a :: rest) := by
  have member : b ∈ a :: row := same.mem_iff.mpr List.mem_cons_self
  rcases List.mem_cons.mp member with rfl | member
  · exact Or.inl ⟨rfl, same.cons_inv⟩
  · obtain ⟨before, after, rfl⟩ := List.append_of_mem member
    refine Or.inr ⟨before ++ after, List.perm_middle, ?_⟩
    have moved : (a :: (before ++ b :: after)).Perm (b :: a :: (before ++ after)) :=
      (List.perm_middle.cons a).trans (.swap _ _ _)
    exact (moved.symm.trans same).cons_inv.symm

namespace Suspension

/-- What may be left of a suspension behind its next leg. -/
inductive Leaves : Suspension β ε α → Suspension β ε α → Prop where
  | leg {leg : Run β ε Unit} {rest : ε → Suspension β ε α} (state : ε)
    : Leaves (.paused leg rest) (rest state)

/-- A row of which one suspension has gone a leg or has dropped out, and in which the others are
left as they are, in any order.
-/
def Fewer (later row : List (Suspension β ε α)) : Prop :=
  ∃ suspension others,
    row.Perm (suspension :: others)
    ∧ (later.Perm others ∨ ∃ left, suspension.Leaves left ∧ later.Perm (left :: others))

/-- The order of a row does not matter to whether it gets fewer for ever. -/
theorem acc_of_perm {row other : List (Suspension β ε α)} (acc : Acc Fewer row)
    (same : other.Perm row)
    : Acc Fewer other :=
  ⟨_, fun _ ⟨_, _, picked, left⟩ => acc.inv ⟨_, _, same.symm.trans picked, left⟩⟩

/-- If what it leaves may stand in front of any row, a suspension may.
Witness: induction on how the row gets fewer; either the suspension in front goes on, or one behind.
-/
theorem acc_cons_of_leaves {suspension : Suspension β ε α}
    (later
      : ∀ left, suspension.Leaves left → ∀ row, Acc Fewer row → Acc Fewer (left :: row))
    {row : List (Suspension β ε α)} (acc : Acc Fewer row)
    : Acc Fewer (suspension :: row) := by
  induction acc with
  | intro row fewer ih =>
    refine ⟨_, fun _ ⟨chosen, others, picked, gone⟩ => ?_⟩
    rcases List.perm_cons_cases picked with ⟨rfl, same⟩ | ⟨rest, inside, same⟩
    · rcases gone with gone | ⟨left, leaves, gone⟩
      · exact acc_of_perm ⟨_, fewer⟩ (gone.trans same.symm)
      · exact acc_of_perm (later left leaves row ⟨_, fewer⟩) (gone.trans (same.symm.cons left))
    · rcases gone with gone | ⟨left, leaves, gone⟩
      · exact acc_of_perm (ih rest ⟨chosen, rest, inside, .inl (.refl _)⟩) (gone.trans same)
      · have moved := (same.cons left).trans (.swap _ _ _)
        exact acc_of_perm (ih (left :: rest) ⟨chosen, rest, inside, .inr ⟨left, leaves, .refl _⟩⟩)
          (gone.trans moved)

/-- A suspension may stand in front of any row, by induction on the suspension. -/
theorem acc_cons (suspension : Suspension β ε α) {row : List (Suspension β ε α)}
    (acc : Acc Fewer row)
    : Acc Fewer (suspension :: row) := by
  induction suspension generalizing row with
  | ended value =>
    refine acc_cons_of_leaves ?_ acc
    rintro _ ⟨⟩
  | paused leg rest ih =>
    refine acc_cons_of_leaves ?_ acc
    rintro _ ⟨state⟩ row acc
    exact ih state acc

/-- No row gets fewer for ever, by induction on the row. -/
theorem fewer_wellFounded : WellFounded (Fewer (β := β) (ε := ε) (α := α)) := by
  constructor
  intro row
  induction row with
  | nil => exact ⟨_, fun _ ⟨_, _, picked, _⟩ => nomatch List.nil_perm.mp picked⟩
  | cons suspension rest ih => exact acc_cons suspension ih

/-- The same for each row. The first steps down are there without a look at the row, so that a row
can be run to its end by evaluation.
-/
theorem fewer_acc : Nat → ∀ row : List (Suspension β ε α), Acc Fewer row
  | 0, row => fewer_wellFounded.apply row
  | steps + 1, row => ⟨row, fun later _ => fewer_acc steps later⟩

end Suspension

end Conductor
