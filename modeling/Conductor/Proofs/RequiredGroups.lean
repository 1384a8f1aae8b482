import Conductor.Proofs.PatternSpans

/-! Groups that no match goes without. A pattern that requires a group has noted it wherever it
leads to, whatever its choices are; what has been noted once is never lost.
-/

namespace Conductor.Pattern

/-- No way leads through a pattern without its group of a number. Of two in a row one has to require
it, of alternatives both, and a loop has to be run once at least. What must not stand ahead or
behind notes nothing.
-/
def Node.requires (index : Nat) : Node → Bool
  | .empty => false
  | .chars _ _ _ _ => false
  | .seq first second => first.requires index || second.requires index
  | .alt first second => first.requires index && second.requires index
  | .group number body => number == index || body.requires index
  | .loop body min _ _ => 0 < min && body.requires index
  | .atomic body => body.requires index
  | .ahead negated body => !negated && body.requires index
  | .behind negated _ body => !negated && body.requires index
  | .same _ _ => false
  | .ifGroup number yes no => (number == index || yes.requires index) && no.requires index
  | .anchor _ => false

/-- Something has been noted of the group of a number. -/
def Place.Notes (index : Nat) (place : Place) : Prop :=
  (place.groups.lookup index).isSome = true

section Notes

variable {index : Nat} {place next : Place}

theorem Place.Notes.of_suffix (noted : place.Notes index) (kept : place.groups <:+ next.groups)
    : next.Notes index := by
  obtain ⟨more, groups⟩ := kept
  rw [Notes, ← groups, List.lookup_append, Option.isSome_or, Bool.or_eq_true]
  exact Or.inr noted

/-- A group that a condition finds matched has been noted. -/
theorem Place.Notes.of_fulfils {opened : Opened} (fulfilled : place.fulfils opened index = true)
    : place.Notes index :=
  Option.isSome_of_any fulfilled

theorem Place.Notes.group? (noted : place.Notes index)
    : ∃ text, place.group? index = some text := by
  obtain ⟨capture, found⟩ := Option.isSome_iff_exists.mp noted
  exact ⟨_, congrArg (Option.map _) found⟩

end Notes

-----------------------------------------------------------------------------------------
-- What is kept
-----------------------------------------------------------------------------------------

/-- Steps that keep what has been noted lead to places where it still is. -/
theorem suffix_of_steps {leads : Place → Place → Prop}
    (kept : ∀ place next, leads place next → place.groups <:+ next.groups) {place next : Place}
    (steps : Relation.ReflTransGen leads place next)
    : place.groups <:+ next.groups := by
  induction steps with
  | refl => exact List.suffix_refl _
  | tail _ last ih => exact ih.trans (kept _ _ last)

/-- Wherever a pattern leads, what has been noted before is kept behind what is noted on the way, by
induction on the pattern.
-/
theorem Node.Leads.keeps {opened : Opened} {node : Node} {place next : Place}
    (leads : node.Leads opened place next)
    : place.groups <:+ next.groups := by
  induction node generalizing opened place next with
  | empty =>
      obtain rfl := leads
      exact List.suffix_refl _
  | chars cls min max greed =>
      obtain ⟨text, reads⟩ := chars_reads leads
      exact reads.groups ▸ List.suffix_refl place.groups
  | seq first second ih₁ ih₂ =>
      obtain ⟨mid, reached, reached'⟩ := leads
      exact (ih₁ reached).trans (ih₂ reached')
  | alt first second ih₁ ih₂ => exact leads.elim ih₁ ih₂
  | group number body ih =>
      obtain ⟨mid, reached, rfl⟩ := leads
      exact (ih reached).trans (List.suffix_cons _ _)
  | loop body min max greed ih =>
      exact suffix_of_steps (fun _ _ => ih) (loop_steps (run_explores_ahead _ body).1 leads)
  | atomic body ih =>
      obtain ⟨_, reached, same⟩ := (run_explores_ahead _ body).1.sound leads
      cases same
      exact ih reached
  | ahead negated body ih =>
      cases negated with
      | false =>
          obtain ⟨found, searched, rfl⟩ := leads
          obtain ⟨_, reached, same⟩ := (run_explores_ahead _ body).1.sound searched
          cases same
          exact (ih reached : place.groups <:+ found.groups)
      | true =>
          obtain ⟨_, rfl⟩ := leads
          exact List.suffix_refl _
  | behind negated width body ih =>
      cases negated with
      | false =>
          obtain ⟨_, found, searched, rfl⟩ := leads
          obtain ⟨_, reached, same⟩ := (run_explores_ahead _ body).1.sound searched
          cases same
          have kept := ih reached
          rwa [Place.Tracks.backBy_groups] at kept
      | true =>
          obtain ⟨_, rfl⟩ := leads
          exact List.suffix_refl _
  | same number rule =>
      obtain ⟨text, _, taken⟩ := leads
      obtain ⟨other, reads⟩ := takeSame_reads taken
      exact reads.groups ▸ List.suffix_refl place.groups
  | ifGroup number yes no ih₁ ih₂ =>
      simp only [Node.Leads] at leads
      split at leads
      · exact ih₁ leads
      · exact ih₂ leads
  | anchor edge =>
      obtain ⟨_, rfl⟩ := leads
      exact List.suffix_refl _

-----------------------------------------------------------------------------------------
-- What is noted
-----------------------------------------------------------------------------------------

/-- A loop that has to be run goes from one place to the next by one step of its body at least. -/
theorem loop_first {opened : Opened} {body : Node} {min : Nat} {max : Option Nat} {greed : Greed}
    (positive : 0 < min) {place next : Place}
    (leads : (Node.loop body min max greed).Leads opened place next)
    : ∃ mid,
        body.Leads opened place mid ∧ Relation.ReflTransGen (body.Leads opened) mid next := by
  have explores := (run_explores_ahead opened body).1
  obtain ⟨n, rfl⟩ := Nat.exists_eq_succ_of_ne_zero (Nat.ne_of_gt positive)
  cases greed with
  | greedy =>
      obtain ⟨_, ⟨mid, first, rest⟩, further⟩ := leads
      exact ⟨mid, first, rest.steps.trans further.steps⟩
  | lazy =>
      obtain ⟨_, ⟨mid, first, rest⟩, further⟩ := leads
      exact ⟨mid, first, rest.steps.trans further.steps⟩
  | possessive =>
      obtain ⟨last, times, rfl⟩ := leads
      simp only [finalTimes] at times
      split at times
      · rename_i mid found
        obtain ⟨_, reached, same⟩ := explores.sound found
        cases same
        exact ⟨mid, reached,
          (finalTimes_steps explores times).trans (finalRuns_steps explores _ _ last)⟩
      · cases times

/-- Wherever a pattern leads that requires a group, the group has been noted, by induction on the
pattern. A group is noted behind its body; all else that is noted stays so.
-/
theorem Node.Leads.notes {index : Nat} {opened : Opened} {node : Node}
    (required : node.requires index = true) {place next : Place}
    (leads : node.Leads opened place next)
    : next.Notes index := by
  induction node generalizing opened place next with
  | empty | chars | same | anchor => cases required
  | seq first second ih₁ ih₂ =>
      obtain ⟨mid, reached, reached'⟩ := leads
      rcases Bool.or_eq_true_iff.mp required with required | required
      · exact (ih₁ required reached).of_suffix reached'.keeps
      · exact ih₂ required reached'
  | alt first second ih₁ ih₂ =>
      obtain ⟨inFirst, inSecond⟩ := Bool.and_eq_true_iff.mp required
      exact leads.elim (ih₁ inFirst) (ih₂ inSecond)
  | group number body ih =>
      obtain ⟨mid, reached, rfl⟩ := leads
      rcases Bool.or_eq_true_iff.mp required with same | required
      · obtain rfl := eq_of_beq same
        simp [Place.Notes]
      · exact (ih required reached).of_suffix (List.suffix_cons _ _)
  | loop body min max greed ih =>
      obtain ⟨positive, required⟩ := Bool.and_eq_true_iff.mp required
      obtain ⟨mid, first, rest⟩ := loop_first (of_decide_eq_true positive) leads
      exact (ih required first).of_suffix (suffix_of_steps (fun _ _ => Node.Leads.keeps) rest)
  | atomic body ih =>
      obtain ⟨_, reached, same⟩ := (run_explores_ahead _ body).1.sound leads
      cases same
      exact ih required reached
  | ahead negated body ih =>
      obtain ⟨stands, required⟩ := Bool.and_eq_true_iff.mp required
      cases negated with
      | false =>
          obtain ⟨found, searched, rfl⟩ := leads
          obtain ⟨_, reached, same⟩ := (run_explores_ahead _ body).1.sound searched
          cases same
          exact (ih required reached : found.Notes index)
      | true => cases stands
  | behind negated width body ih =>
      obtain ⟨stands, required⟩ := Bool.and_eq_true_iff.mp required
      cases negated with
      | false =>
          obtain ⟨_, found, searched, rfl⟩ := leads
          obtain ⟨_, reached, same⟩ := (run_explores_ahead _ body).1.sound searched
          cases same
          exact (ih required reached : found.Notes index)
      | true => cases stands
  | ifGroup number yes no ih₁ ih₂ =>
      obtain ⟨ifNoted, unnoted⟩ := Bool.and_eq_true_iff.mp required
      simp only [Node.Leads] at leads
      split at leads
      · rename_i fulfilled
        rcases Bool.or_eq_true_iff.mp ifNoted with same | required
        · obtain rfl := eq_of_beq same
          exact (Place.Notes.of_fulfils fulfilled).of_suffix leads.keeps
        · exact ih₁ required leads
      · exact ih₂ unnoted leads

/-- A match of the whole of a subject by a pattern that requires a group captures a text in it. -/
theorem Node.fullMatch?_captures {index : Nat} {node : Node} (required : node.requires index = true)
    {subject : List Char} {place : Place} (matched : node.fullMatch? subject = some place)
    : ∃ text, place.group? index = some text := by
  obtain ⟨leads, _⟩ := node.fullMatch?_leads matched
  exact (leads.notes required).group?

end Conductor.Pattern
