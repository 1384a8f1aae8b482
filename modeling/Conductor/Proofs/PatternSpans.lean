import Conductor.Proofs.PatternLeads

/-! What the groups of a pattern capture. A pattern leads through a single subject, and what its
groups have noted at any place are stretches of that subject, each from a place to another one to
which the body of the group leads.
-/

namespace Conductor.Pattern

-----------------------------------------------------------------------------------------
-- Places in one subject
-----------------------------------------------------------------------------------------

/-- A place is in a subject: what is before it and what is after it make the subject up. -/
structure Place.Within (subject : List Char) (place : Place) : Prop where
  text : place.before.reverse ++ place.after = subject
  position : place.position = place.before.length

namespace Place.Within

variable {subject text : List Char} {place next : Place}

theorem start (subject : List Char) : (Place.start subject).Within subject := ⟨rfl, rfl⟩

/-- The place behind a text is in the same subject. -/
theorem reads (within : place.Within subject) (reads : place.Reads text next)
    : next.Within subject where
  text := by
    rw [reads.before, List.reverse_append, List.reverse_reverse, List.append_assoc, ← reads.after]
    exact within.text
  position := by
    rw [reads.position, reads.before, List.length_append, List.length_reverse, within.position,
      Nat.add_comm]

theorem back (within : place.Within subject) : place.back.Within subject := by
  rcases place with ⟨_ | ⟨c, before⟩, after, position, groups⟩
  · exact within
  · have text := within.text
    have position := within.position
    simp only [List.reverse_cons, List.append_assoc, List.cons_append, List.nil_append] at text
    simp only [List.length_cons] at position
    exact ⟨text, by simp [Place.back, position]⟩

theorem backBy (within : place.Within subject) (n : Nat) : (place.backBy n).Within subject := by
  induction n generalizing place with
  | zero => exact within
  | succ n ih => exact ih within.back

theorem after_eq (within : place.Within subject) : place.after = subject.drop place.position := by
  rw [← within.text, within.position, ← List.length_reverse, List.drop_left]

/-- Between two places in a subject is the text behind the first one, as far as the second one. -/
theorem between (within : place.Within subject) (within' : next.Within subject)
    (ahead : place.Ahead next)
    : subject
      = place.before.reverse ++ place.after.take (next.position - place.position)
        ++ next.after := by
  have rest : next.after = place.after.drop (next.position - place.position) := by
    rw [within'.after_eq, within.after_eq, List.drop_drop, Nat.add_sub_cancel' ahead.position]
  rw [rest, List.append_assoc, List.take_append_drop, within.text]

end Place.Within

-----------------------------------------------------------------------------------------
-- Groups
-----------------------------------------------------------------------------------------

/-- The groups within a pattern, each with its number and its body. -/
def Node.groups : Node → List (Nat × Node)
  | .empty => []
  | .chars _ _ _ _ => []
  | .seq first second => first.groups ++ second.groups
  | .alt first second => first.groups ++ second.groups
  | .group index body => (index, body) :: body.groups
  | .loop body _ _ _ => body.groups
  | .atomic body => body.groups
  | .ahead _ body => body.groups
  | .behind _ _ body => body.groups
  | .same _ _ => []
  | .ifGroup _ yes no => yes.groups ++ no.groups
  | .anchor _ => []

/-- A stretch of a subject, from one place to another one, that the body of a group leads across. -/
structure Spans (groups : List (Nat × Node)) (subject : List Char) (index : Nat)
    (first last : Place)
    : Prop where
  crossed
    : ∃ body opened,
        (index, body) ∈ groups ∧ body.Leads ((index, first.position) :: opened) first last
  first : first.Within subject
  last : last.Within subject

theorem Spans.ahead {groups : List (Nat × Node)} {subject : List Char} {index : Nat}
    {first last : Place} (spans : Spans groups subject index first last)
    : first.Ahead last := by
  obtain ⟨body, opened, _, leads⟩ := spans.crossed
  exact (run_explores_ahead _ body).2 first last leads

/-- A place is in a subject, and all that groups have noted there are stretches of the subject. -/
structure Place.Tracks (groups : List (Nat × Node)) (subject : List Char) (place : Place)
    : Prop where
  within : place.Within subject
  noted
    : ∀ index capture,
        (index, capture) ∈ place.groups
        → ∃ first last,
            Spans groups subject index first last
            ∧ capture = ⟨first.after, last.position - first.position⟩

namespace Place.Tracks

variable {groups : List (Nat × Node)} {subject text : List Char} {place next : Place}

theorem start (groups : List (Nat × Node)) (subject : List Char)
    : (Place.start subject).Tracks groups subject where
  within := .start subject
  noted _ _ member := absurd member List.not_mem_nil

theorem reads (tracks : place.Tracks groups subject) (reads : place.Reads text next)
    : next.Tracks groups subject where
  within := tracks.within.reads reads
  noted := by
    rw [reads.groups]
    exact tracks.noted

theorem backBy_groups (n : Nat) (place : Place) : (place.backBy n).groups = place.groups := by
  induction n generalizing place with
  | zero => rfl
  | succ n ih =>
      refine (ih place.back).trans ?_
      rcases place with ⟨_ | ⟨c, before⟩, after, position, noted⟩ <;> rfl

theorem backBy (tracks : place.Tracks groups subject) (n : Nat)
    : (place.backBy n).Tracks groups subject where
  within := tracks.within.backBy n
  noted := by
    rw [backBy_groups]
    exact tracks.noted

/-- What has been noted elsewhere may be taken along. -/
theorem withGroups (tracks : place.Tracks groups subject) (found : next.Tracks groups subject)
    : Place.Tracks groups subject { place with groups := next.groups } where
  within := ⟨tracks.within.text, tracks.within.position⟩
  noted := found.noted

/-- A place keeps track of a stretch that is noted of a group. -/
theorem note {index : Nat} {first : Place} (tracks : place.Tracks groups subject)
    (spans : Spans groups subject index first place)
    : Place.Tracks groups subject
        { place with
          groups := (index, ⟨first.after, place.position - first.position⟩) :: place.groups } where
  within := ⟨tracks.within.text, tracks.within.position⟩
  noted := by
    intro other capture member
    rcases List.mem_cons.mp member with same | member
    · cases same
      exact ⟨first, place, spans, rfl⟩
    · exact tracks.noted other capture member

/-- Steps that keep track lead to places that do. -/
theorem steps {leads : Place → Place → Prop}
    (kept : ∀ place next, place.Tracks groups subject → leads place next
      → next.Tracks groups subject)
    (tracks : place.Tracks groups subject) (steps : Relation.ReflTransGen leads place next)
    : next.Tracks groups subject := by
  induction steps with
  | refl => exact tracks
  | tail _ last ih => exact kept _ _ ih last

end Place.Tracks

/-- Wherever a pattern leads, track is kept of what its groups have noted, by induction on the
pattern. A group adds the stretch that its body has led across; what looks ahead or behind takes
along what has been noted there, and the place stays.
-/
theorem Node.Leads.tracks {groups : List (Nat × Node)} {subject : List Char} {node : Node}
    (inside : node.groups ⊆ groups) {opened : Opened} {place next : Place}
    (tracked : place.Tracks groups subject) (leads : node.Leads opened place next)
    : next.Tracks groups subject := by
  induction node generalizing opened place next with
  | empty =>
      obtain rfl := leads
      exact tracked
  | chars cls min max greed =>
      obtain ⟨text, reads⟩ := chars_reads leads
      exact tracked.reads reads
  | seq first second ih₁ ih₂ =>
      obtain ⟨inFirst, inSecond⟩ := List.append_subset.mp inside
      obtain ⟨mid, reached, reached'⟩ := leads
      exact ih₂ inSecond (ih₁ inFirst tracked reached) reached'
  | alt first second ih₁ ih₂ =>
      obtain ⟨inFirst, inSecond⟩ := List.append_subset.mp inside
      rcases leads with reached | reached
      · exact ih₁ inFirst tracked reached
      · exact ih₂ inSecond tracked reached
  | group index body ih =>
      obtain ⟨known, within⟩ := List.cons_subset.mp inside
      obtain ⟨mid, reached, rfl⟩ := leads
      have crossed := ih within tracked reached
      exact crossed.note ⟨⟨body, _, known, reached⟩, tracked.within, crossed.within⟩
  | loop body min max greed ih =>
      refine tracked.steps ?_ (loop_steps (run_explores_ahead opened body).1 leads)
      exact fun place next tracked reached => ih inside tracked reached
  | atomic body ih =>
      obtain ⟨_, reached, same⟩ := (run_explores_ahead opened body).1.sound leads
      cases same
      exact ih inside tracked reached
  | ahead negated body ih =>
      cases negated with
      | false =>
          obtain ⟨found, searched, rfl⟩ := leads
          obtain ⟨_, reached, same⟩ := (run_explores_ahead opened body).1.sound searched
          cases same
          exact tracked.withGroups (ih inside tracked reached)
      | true =>
          obtain ⟨_, rfl⟩ := leads
          exact tracked
  | behind negated width body ih =>
      cases negated with
      | false =>
          obtain ⟨_, found, searched, rfl⟩ := leads
          obtain ⟨_, reached, same⟩ := (run_explores_ahead opened body).1.sound searched
          cases same
          exact tracked.withGroups (ih inside (tracked.backBy width) reached)
      | true =>
          obtain ⟨_, rfl⟩ := leads
          exact tracked
  | same index rule =>
      obtain ⟨text, _, taken⟩ := leads
      obtain ⟨other, reads⟩ := takeSame_reads taken
      exact tracked.reads reads
  | ifGroup index yes no ih₁ ih₂ =>
      obtain ⟨inYes, inNo⟩ := List.append_subset.mp inside
      simp only [Node.Leads] at leads
      split at leads
      · exact ih₁ inYes tracked leads
      · exact ih₂ inNo tracked leads
  | anchor edge =>
      obtain ⟨_, rfl⟩ := leads
      exact tracked

/-- What a group has captured in a match of the whole of a subject is a stretch of the subject that
the body of a group of its number leads across.
Witness: the match starts with nothing noted, and the pattern keeps track of what is noted.
-/
theorem Node.fullMatch?_spans {node : Node} {subject : List Char} {place : Place}
    (matched : node.fullMatch? subject = some place) {index : Nat} {text : List Char}
    (captured : place.group? index = some text)
    : ∃ first last,
        Spans node.groups subject index first last
        ∧ subject = first.before.reverse ++ text ++ last.after := by
  obtain ⟨leads, _⟩ := node.fullMatch?_leads matched
  have tracks := leads.tracks (List.Subset.refl _) (.start node.groups subject)
  obtain ⟨capture, found, rfl⟩ := Option.map_eq_some_iff.mp captured
  obtain ⟨before, after, split, _⟩ := List.lookup_eq_some_iff.mp found
  have member : (index, capture) ∈ place.groups := by
    rw [split]
    exact List.mem_append_right _ List.mem_cons_self
  obtain ⟨first, last, spans, rfl⟩ := tracks.noted index capture member
  exact ⟨first, last, spans, spans.first.between spans.last spans.ahead⟩

end Conductor.Pattern
