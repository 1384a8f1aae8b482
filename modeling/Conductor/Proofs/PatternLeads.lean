import Conductor.Proofs.CharacterRuns
import Mathlib.Logic.Relation

/-! Where patterns lead. A pattern leads from a place in a subject to every place that its choices
can come to. Matching by backtracking goes on from such places only, and if it can go on from any of
them it does go on from one.
-/

namespace Conductor.Pattern

-----------------------------------------------------------------------------------------
-- Searches in a row
-----------------------------------------------------------------------------------------

namespace Explores

variable {leads leads' : Place → Place → Prop} {search search' : Continuation → Continuation}

theorem stay : Explores (fun place next => next = place) fun k => k where
  sound := fun found => ⟨_, rfl, found⟩
  complete := by
    rintro k place next rfl goes
    exact goes

theorem seq (first : Explores leads search) (second : Explores leads' search')
    : Explores (fun place next => ∃ mid, leads place mid ∧ leads' mid next)
        fun k => search (search' k) where
  sound := by
    intro k place result found
    obtain ⟨mid, reached, found⟩ := first.sound found
    obtain ⟨next, reached', found⟩ := second.sound found
    exact ⟨next, ⟨mid, reached, reached'⟩, found⟩
  complete := by
    intro k place next ⟨mid, reached, reached'⟩ goes
    exact first.complete reached (second.complete reached' goes)

theorem alt (first : Explores leads search) (second : Explores leads' search')
    : Explores (fun place next => leads place next ∨ leads' place next)
        fun k place =>
          match search k place with
          | some result => some result
          | none => search' k place where
  sound := by
    intro k place result found
    cases tried : search k place with
    | some other =>
        simp only [tried] at found
        obtain ⟨next, reached, goes⟩ := first.sound (tried.trans found)
        exact ⟨next, Or.inl reached, goes⟩
    | none =>
        simp only [tried] at found
        obtain ⟨next, reached, goes⟩ := second.sound found
        exact ⟨next, Or.inr reached, goes⟩
  complete := by
    intro k place next reached goes
    cases tried : search k place with
    | some other => rfl
    | none =>
        rcases reached with reached | reached
        · have found := first.complete reached goes
          rw [tried] at found
          cases found
        · exact second.complete reached goes

/-- A search that takes any place finds one unless there is none. -/
theorem eq_none_iff (explores : Explores leads search) {place : Place}
    : search some place = none ↔ ∀ next, ¬leads place next := by
  constructor
  · intro none next reached
    have found := explores.complete (k := some) reached rfl
    rw [none] at found
    cases found
  · intro nowhere
    by_contra found
    obtain ⟨result, found⟩ := Option.ne_none_iff_exists'.mp found
    obtain ⟨next, reached, _⟩ := explores.sound found
    exact nowhere next reached

end Explores

-----------------------------------------------------------------------------------------
-- Repetitions
-----------------------------------------------------------------------------------------

/-- A number of steps in a row. -/
def Repeats (leads : Place → Place → Prop) : Nat → Place → Place → Prop
  | 0, place, next => next = place
  | n + 1, place, next => ∃ mid, leads place mid ∧ Repeats leads n mid next

/-- Steps up to a bound, in a row. A step that starts where the one before it started, at `last`, is
not taken, so that there is at most one step that leads nowhere.
-/
inductive Further (leads : Place → Place → Prop)
    : Option Nat → Option Nat → Place → Place → Prop where
  | stop {max last place} : Further leads max last place place
  | step {max left last place mid next} (allowed : more max = some left)
    (moved : last ≠ some place.position) (first : leads place mid)
    (rest : Further leads left (some place.position) mid next)
    : Further leads max last place next

/-- The next place is no earlier in the same subject. -/
structure Place.Ahead (place next : Place) : Prop where
  position : place.position ≤ next.position
  length : next.position + next.after.length = place.position + place.after.length

namespace Place.Ahead

variable {place mid next : Place}

theorem refl (place : Place) : place.Ahead place := ⟨Nat.le_refl _, rfl⟩

theorem trans (first : place.Ahead mid) (second : mid.Ahead next) : place.Ahead next :=
  ⟨Nat.le_trans first.position second.position, second.length.trans first.length⟩

end Place.Ahead

theorem Place.Reads.ahead {place next : Place} {text : List Char} (reads : place.Reads text next)
    : place.Ahead next where
  position := by
    have position := reads.position
    omega
  length := by
    have position := reads.position
    have after := congrArg List.length reads.after
    rw [List.length_append] at after
    omega

section Loops

variable {leads : Place → Place → Prop} {body : Continuation → Continuation}

theorem times_explores (explores : Explores leads body) (n : Nat)
    : Explores (Repeats leads n) (times body n) := by
  induction n with
  | zero => exact .stay
  | succ n ih => exact explores.seq ih

/-- What further runs of a body find is found behind further steps, by induction on the fuel. -/
theorem optional_sound (explores : Explores leads body) {lazy : Bool} {k : Continuation}
    {fuel : Nat} {max last : Option Nat} {place result : Place}
    (found : optional body lazy k fuel max last place = some result)
    : ∃ next, Further leads max last place next ∧ k next = some result := by
  induction fuel generalizing max last place result with
  | zero => exact ⟨place, .stop, found⟩
  | succ fuel ih =>
      simp only [optional] at found
      split at found
      · exact ⟨place, .stop, found⟩
      rename_i left allowed
      split at found
      · exact ⟨place, .stop, found⟩
      rename_i moved
      have again
        : body (optional body lazy k fuel left (some place.position)) place = some result
          → ∃ next, Further leads max last place next ∧ k next = some result := by
        intro found
        obtain ⟨mid, first, found⟩ := explores.sound found
        obtain ⟨next, rest, found⟩ := ih found
        exact ⟨next, .step allowed moved first rest, found⟩
      split at found
      · split at found
        · rename_i here
          exact ⟨place, .stop, here.trans found⟩
        · exact again found
      · split at found
        · rename_i here
          exact again (here.trans found)
        · exact ⟨place, .stop, found⟩

/-- If it goes on from here it goes on, whether or not further runs are tried first. -/
theorem optional_here {lazy : Bool} {k : Continuation} {fuel : Nat} {max last : Option Nat}
    {place : Place} (goes : (k place).isSome)
    : (optional body lazy k fuel max last place).isSome := by
  cases fuel with
  | zero => exact goes
  | succ fuel =>
      simp only [optional]
      split
      · exact goes
      split
      · exact goes
      split
      · split
        · rfl
        · rename_i none
          rw [none] at goes
          cases goes
      · split
        · rfl
        · exact goes

/-- Enough fuel for the steps that can still be taken: as many as the bound allows or, without one,
one for each character ahead and one more, unless no further step can be taken.
-/
def EnoughFuel (fuel : Nat) (max last : Option Nat) (place : Place) : Prop :=
  match max with
  | some n => n ≤ fuel
  | none => last = some place.position ∨ place.after.length < fuel

/-- Behind a step that the bound allows there is enough fuel left, since it takes a character or is
the last one.
-/
theorem EnoughFuel.step {fuel : Nat} {max left last : Option Nat} {place mid : Place}
    (enough : EnoughFuel (fuel + 1) max last place) (allowed : more max = some left)
    (moved : last ≠ some place.position) (ahead : place.Ahead mid)
    : EnoughFuel fuel left (some place.position) mid := by
  have position := ahead.position
  have length := ahead.length
  rcases max with _ | _ | n
  · cases allowed
    simp only [EnoughFuel, moved, false_or] at enough
    by_cases same : place.position = mid.position
    · exact Or.inl (congrArg some same)
    · exact Or.inr (by omega)
  · cases allowed
  · cases allowed
    exact Nat.le_of_succ_le_succ enough

theorem EnoughFuel.pos {fuel : Nat} {max left last : Option Nat} {place : Place}
    (enough : EnoughFuel fuel max last place) (allowed : more max = some left)
    (moved : last ≠ some place.position)
    : 0 < fuel := by
  rcases max with _ | _ | n
  · simp only [EnoughFuel, moved, false_or] at enough
    omega
  · cases allowed
  · exact Nat.lt_of_lt_of_le (Nat.succ_pos n) enough

/-- Further runs of a body find a place behind further steps, if it goes on from one.
Witness: induction on the steps; each uses up one unit of the fuel.
-/
theorem optional_complete (explores : Explores leads body)
    (onwards : ∀ place next, leads place next → place.Ahead next) {lazy : Bool} {k : Continuation}
    {fuel : Nat} {max last : Option Nat} {place next : Place}
    (further : Further leads max last place next) (goes : (k next).isSome)
    (enough : EnoughFuel fuel max last place)
    : (optional body lazy k fuel max last place).isSome := by
  induction further generalizing fuel with
  | stop => exact optional_here goes
  | @step max left last place mid next allowed moved first rest ih =>
      cases fuel with
      | zero => exact absurd (enough.pos allowed moved) (Nat.lt_irrefl 0)
      | succ fuel =>
          have later := ih goes (enough.step allowed moved (onwards place mid first))
          have again := explores.complete first later
          simp only [optional, allowed, if_neg moved]
          split
          · split
            · rfl
            · exact again
          · split
            · rfl
            · rename_i none
              rw [none] at again
              cases again

/-- A loop that gives runs of its body back makes the least number of steps and further ones. -/
theorem runLoop_explores (explores : Explores leads body)
    (onwards : ∀ place next, leads place next → place.Ahead next) (min : Nat) (max : Option Nat)
    (greed : Greed) (gives : greed ≠ .possessive)
    : Explores
        (fun place next =>
          ∃ mid, Repeats leads min place mid ∧ Further leads (max.map (· - min)) none mid next)
        (runLoop body min max greed) := by
  let rest := max.map (· - min)
  have further : Explores (Further leads rest none)
      (fun k next => optional body (greed == .lazy) k (loopFuel rest next) rest none next) := {
    sound := fun found => optional_sound explores found
    complete := by
      intro k place next further goes
      refine optional_complete explores onwards further goes ?_
      cases rest with
      | none => exact Or.inr (Nat.lt_succ_self _)
      | some n => exact Nat.le_refl n
  }
  have loop := (times_explores explores min).seq further
  cases greed with
  | possessive => exact absurd rfl gives
  | greedy => exact loop
  | lazy => exact loop

/-- A number of steps in a row is made of single steps, by induction on the number. -/
theorem Repeats.steps {n : Nat} {place next : Place} (repeats : Repeats leads n place next)
    : Relation.ReflTransGen leads place next := by
  induction n generalizing place with
  | zero =>
      obtain rfl := repeats
      exact .refl
  | succ n ih =>
      obtain ⟨mid, first, rest⟩ := repeats
      exact .head first (ih rest)

theorem Further.steps {max last : Option Nat} {place next : Place}
    (further : Further leads max last place next)
    : Relation.ReflTransGen leads place next := by
  induction further with
  | stop => exact .refl
  | step _ _ first _ ih => exact .head first ih

theorem finalTimes_steps (explores : Explores leads body) {n : Nat} {place next : Place}
    (found : finalTimes body n place = some next)
    : Relation.ReflTransGen leads place next := by
  induction n generalizing place with
  | zero =>
      cases found
      exact .refl
  | succ n ih =>
      simp only [finalTimes] at found
      split at found
      · rename_i mid first
        obtain ⟨_, reached, same⟩ := explores.sound first
        cases same
        exact .head reached (ih found)
      · cases found

theorem finalRuns_steps (explores : Explores leads body) (fuel : Nat) (max : Option Nat)
    (place : Place)
    : Relation.ReflTransGen leads place (finalRuns body fuel max place) := by
  induction fuel generalizing max place with
  | zero => exact .refl
  | succ fuel ih =>
      simp only [finalRuns]
      split
      · rename_i left mid _ first
        obtain ⟨_, reached, same⟩ := explores.sound first
        cases same
        split
        · exact .single reached
        · exact .head reached (ih left mid)
      · exact .refl

/-- Steps none of which leads to an earlier place do not lead to one either. -/
theorem Place.ahead_of_steps (onwards : ∀ place next, leads place next → place.Ahead next)
    {place next : Place} (steps : Relation.ReflTransGen leads place next)
    : place.Ahead next := by
  induction steps with
  | refl => exact .refl place
  | tail _ last ih => exact ih.trans (onwards _ _ last)

end Loops

-----------------------------------------------------------------------------------------
-- Patterns
-----------------------------------------------------------------------------------------

/-- `node.Leads opened place next` says that a pattern leads from one place to the next by some of
its choices, within groups that have been opened. What is final, or looks ahead or behind, has the
choice that a search for any place makes.
-/
def Node.Leads (opened : Opened) : Node → Place → Place → Prop
  | .empty, place, next => next = place
  | .chars cls min max .greedy, place, next =>
    ∃ text, place.Runs cls max text next ∧ min ≤ text.length
  | .chars cls min max .lazy, place, next =>
    ∃ first mid more,
      place.Runs cls (some min) first mid
      ∧ min ≤ first.length
      ∧ mid.Runs cls (max.map (· - min)) more next
  | .chars cls min max .possessive, place, next =>
    ∃ text,
      place.Runs cls max text next
      ∧ min ≤ text.length
      ∧ ∀ other last, place.Runs cls max other last → other.length ≤ text.length
  | .seq first second, place, next =>
    ∃ mid, first.Leads opened place mid ∧ second.Leads opened mid next
  | .alt first second, place, next => first.Leads opened place next ∨ second.Leads opened place next
  | .group index body, place, next =>
    ∃ mid,
      body.Leads ((index, place.position) :: opened) place mid
      ∧ next
        = { mid with
            groups := (index, ⟨place.after, mid.position - place.position⟩) :: mid.groups }
  | .loop body min max .possessive, place, next =>
    ∃ mid,
      finalTimes (Pattern.run opened body) min place = some mid
      ∧ finalRuns (Pattern.run opened body) (loopFuel (max.map (· - min)) mid) (max.map (· - min))
        mid
        = next
  | .loop body min max _, place, next =>
    ∃ mid,
      Repeats (body.Leads opened) min place mid
      ∧ Further (body.Leads opened) (max.map (· - min)) none mid next
  | .atomic body, place, next => Pattern.run opened body some place = some next
  | .ahead false body, place, next =>
    ∃ found,
      Pattern.run opened body some place = some found
      ∧ { place with groups := found.groups } = next
  | .ahead true body, place, next => (∀ found, ¬body.Leads opened place found) ∧ place = next
  | .behind false width body, place, next =>
    width ≤ place.position
    ∧ ∃ found,
        Pattern.run opened body some (place.backBy width) = some found
        ∧ { place with groups := found.groups } = next
  | .behind true width body, place, next =>
    (width ≤ place.position → ∀ found, ¬body.Leads opened (place.backBy width) found) ∧ place = next
  | .same index rule, place, next =>
    ∃ text, place.group? index = some text ∧ takeSame rule place text = some next
  | .ifGroup index yes no, place, next =>
    if place.fulfils opened index then yes.Leads opened place next else no.Leads opened place next
  | .anchor edge, place, next => edge.holds place = true ∧ place = next

-- What a search does at a node, and where the node leads, is computed case by case below.
attribute [local simp] run Node.Leads

/-- The text of a group is compared one character at a time, by induction on it. -/
theorem takeSame_reads {rule : CaseRule} {place next : Place} {text : List Char}
    (taken : takeSame rule place text = some next)
    : ∃ other, place.Reads other next := by
  induction text generalizing place with
  | nil =>
      cases taken
      exact ⟨[], .nil next⟩
  | cons c text ih =>
      rcases place with ⟨before, _ | ⟨d, rest⟩, position, groups⟩
      · cases taken
      · simp only [takeSame] at taken
        split at taken
        · have first : Place.Reads ⟨before, d :: rest, position, groups⟩ [d]
              ⟨d :: before, rest, position + 1, groups⟩ := ⟨rfl, rfl, rfl, rfl⟩
          obtain ⟨others, reads⟩ := ih taken
          exact ⟨[d] ++ others, first.append reads⟩
        · cases taken

theorem runChars_explores (opened : Opened) (cls : CharClass) (min : Nat) (max : Option Nat)
    (greed : Greed)
    : Explores ((Node.chars cls min max greed).Leads opened)
      (run opened (.chars cls min max greed)) := by
  cases greed with
  | greedy => exact runChars_explores_greedy cls min max
  | lazy => exact runChars_explores_lazy cls min max
  | possessive => exact runChars_explores_possessive cls min max

theorem chars_reads {cls : CharClass} {min : Nat} {max : Option Nat} {greed : Greed}
    {place next : Place} (leads : (Node.chars cls min max greed).Leads opened place next)
    : ∃ text, place.Reads text next := by
  cases greed with
  | greedy =>
      obtain ⟨text, runs, _⟩ := leads
      exact ⟨text, runs.reads⟩
  | lazy =>
      obtain ⟨first, mid, more, runs, _, runs'⟩ := leads
      exact ⟨first ++ more, runs.reads.append runs'.reads⟩
  | possessive =>
      obtain ⟨text, runs, _⟩ := leads
      exact ⟨text, runs.reads⟩

section Body

variable {body : Node} {opened : Opened}

/-- The text of a group is noted behind its body. -/
theorem group_explores (explores : ∀ opened, Explores (body.Leads opened) (run opened body))
    (index : Nat)
    : Explores ((Node.group index body).Leads opened) (run opened (.group index body)) where
  sound := by
    intro k place result found
    obtain ⟨mid, reached, goes⟩ := (explores _).sound found
    exact ⟨_, ⟨mid, reached, rfl⟩, goes⟩
  complete := by
    rintro k place next ⟨mid, reached, rfl⟩ goes
    exact (explores _).complete reached goes

/-- A loop goes from one place to the next by steps of its body. -/
theorem loop_steps (explores : Explores (body.Leads opened) (run opened body)) {min : Nat}
    {max : Option Nat}
    {greed : Greed} {place next : Place}
    (leads : (Node.loop body min max greed).Leads opened place next)
    : Relation.ReflTransGen (body.Leads opened) place next := by
  cases greed with
  | greedy =>
      obtain ⟨mid, repeats, further⟩ := leads
      exact repeats.steps.trans further.steps
  | lazy =>
      obtain ⟨mid, repeats, further⟩ := leads
      exact repeats.steps.trans further.steps
  | possessive =>
      obtain ⟨mid, times, rfl⟩ := leads
      exact (finalTimes_steps explores times).trans (finalRuns_steps explores _ _ mid)

theorem loop_explores (explores : Explores (body.Leads opened) (run opened body))
    (onwards : ∀ place next, body.Leads opened place next → place.Ahead next) (min : Nat)
    (max : Option Nat) (greed : Greed)
    : Explores ((Node.loop body min max greed).Leads opened)
      (run opened (.loop body min max greed)) := by
  cases greed with
  | greedy => exact runLoop_explores explores onwards min max .greedy (by decide)
  | lazy => exact runLoop_explores explores onwards min max .lazy (by decide)
  | possessive =>
      let rest := max.map (· - min)
      refine .of_bind
        (fun place => (finalTimes (run opened body) min place).map fun mid =>
          finalRuns (run opened body) (loopFuel rest mid) rest mid) ?_ ?_
      · intro place next
        simp only [Node.Leads, Option.map_eq_some_iff, rest]
      · intro k place
        simp only [run, runLoop]
        cases finalTimes (run opened body) min place <;> rfl

theorem atomic_explores (opened : Opened) (body : Node)
    : Explores ((Node.atomic body).Leads opened) (run opened (.atomic body)) := by
  refine .of_bind (run opened body some) (fun place next => Iff.rfl) ?_
  intro k place
  simp only [run]
  cases run opened body some place <;> rfl

/-- What is ahead is searched for once; the place stays. -/
theorem ahead_explores (explores : Explores (body.Leads opened) (run opened body)) (negated : Bool)
    : Explores ((Node.ahead negated body).Leads opened) (run opened (.ahead negated body)) := by
  cases negated with
  | false =>
      refine .of_bind
        (fun place => (run opened body some place).map fun found =>
          { place with groups := found.groups })
        ?_ ?_
      · intro place next
        simp only [Node.Leads, Option.map_eq_some_iff]
      · intro k place
        simp only [run]
        cases run opened body some place <;> rfl
  | true =>
      refine .of_bind
        (fun place => if (run opened body some place).isNone then some place else none) ?_ ?_
      · intro place next
        simp [← explores.eq_none_iff]
      · intro k place
        simp only [run]
        cases run opened body some place <;> rfl

/-- What is behind is searched for once, from as far back as it is wide; the place stays. -/
theorem behind_explores (explores : Explores (body.Leads opened) (run opened body)) (negated : Bool)
    (width : Nat)
    : Explores ((Node.behind negated width body).Leads opened)
      (run opened (.behind negated width body)) := by
  let found (place : Place) :=
    if place.position < width then none else run opened body some (place.backBy width)
  cases negated with
  | false =>
      refine .of_bind
        (fun place => (found place).map fun found => { place with groups := found.groups }) ?_ ?_
      · intro place next
        by_cases short : place.position < width
        · simp [found, short, Nat.not_le.mpr short]
        · simp only [Node.Leads, found, short, Nat.not_lt.mp short, if_false, true_and,
            Option.map_eq_some_iff]
      · intro k place
        simp only [run, found]
        by_cases short : place.position < width
        · simp only [short, if_true]
          rfl
        · simp only [short, if_false]
          cases run opened body some (place.backBy width) <;> rfl
  | true =>
      refine .of_bind (fun place => if (found place).isNone then some place else none) ?_ ?_
      · intro place next
        by_cases short : place.position < width
        · simp [found, short, Nat.not_le.mpr short]
        · simp [found, short, Nat.not_lt.mp short, ← explores.eq_none_iff]
      · intro k place
        simp only [run, found]
        by_cases short : place.position < width
        · simp only [short, if_true]
          rfl
        · simp only [short, if_false]
          cases run opened body some (place.backBy width) <;> rfl

end Body

theorem ifGroup_explores {opened : Opened} {yes no : Node}
    (first : Explores (yes.Leads opened) (run opened yes))
    (second : Explores (no.Leads opened) (run opened no)) (index : Nat)
    : Explores ((Node.ifGroup index yes no).Leads opened) (run opened (.ifGroup index yes no)) where
  sound := by
    intro k place result found
    by_cases matched : place.fulfils opened index
    · simp only [run, Node.Leads, matched, if_true] at found ⊢
      exact first.sound found
    · simp only [run, Node.Leads, matched] at found ⊢
      exact second.sound found
  complete := by
    intro k place next leads goes
    by_cases matched : place.fulfils opened index
    · simp only [run, Node.Leads, matched, if_true] at leads ⊢
      exact first.complete leads goes
    · simp only [run, Node.Leads, matched] at leads ⊢
      exact second.complete leads goes

theorem same_explores (opened : Opened) (index : Nat) (rule : CaseRule)
    : Explores ((Node.same index rule).Leads opened) (run opened (.same index rule)) := by
  refine .of_bind (fun place => (place.group? index).bind (takeSame rule place)) ?_ ?_
  · intro place next
    simp only [Node.Leads, Option.bind_eq_some_iff]
  · intro k place
    simp only [run]
    cases place.group? index with
    | none => rfl
    | some text =>
        simp only [Option.bind_some]
        cases takeSame rule place text <;> rfl

theorem anchor_explores (opened : Opened) (anchor : Anchor)
    : Explores ((Node.anchor anchor).Leads opened) (run opened (.anchor anchor)) := by
  refine .of_bind (fun place => if anchor.holds place then some place else none) ?_ ?_
  · intro place next
    simp
  · intro k place
    simp only [run]
    cases anchor.holds place <;> rfl

/-- A pattern is searched for the places that it leads to, none of which is earlier.
Witness: induction on the pattern. What is final goes on from one place at most; loops need the
places of their bodies to be no earlier, so that their fuel lasts.
-/
theorem run_explores_ahead (opened : Opened) (node : Node)
    : Explores (node.Leads opened) (run opened node)
      ∧ ∀ place next, node.Leads opened place next → place.Ahead next := by
  induction node generalizing opened with
  | empty =>
      refine ⟨.stay, ?_⟩
      rintro place next rfl
      exact .refl _
  | chars cls min max greed =>
      refine ⟨runChars_explores opened cls min max greed, ?_⟩
      intro place next leads
      obtain ⟨text, reads⟩ := chars_reads leads
      exact reads.ahead
  | seq first second ih₁ ih₂ =>
      refine ⟨(ih₁ opened).1.seq (ih₂ opened).1, ?_⟩
      rintro place next ⟨mid, reached, reached'⟩
      exact ((ih₁ opened).2 place mid reached).trans ((ih₂ opened).2 mid next reached')
  | alt first second ih₁ ih₂ =>
      refine ⟨(ih₁ opened).1.alt (ih₂ opened).1, ?_⟩
      intro place next leads
      exact leads.elim ((ih₁ opened).2 place next) ((ih₂ opened).2 place next)
  | group index body ih =>
      refine ⟨group_explores (fun opened => (ih opened).1) index, ?_⟩
      rintro place next ⟨mid, reached, rfl⟩
      have ahead := (ih _).2 place mid reached
      exact ⟨ahead.position, ahead.length⟩
  | loop body min max greed ih =>
      refine ⟨loop_explores (ih opened).1 (ih opened).2 min max greed, ?_⟩
      intro place next leads
      exact Place.ahead_of_steps (ih opened).2 (loop_steps (ih opened).1 leads)
  | atomic body ih =>
      refine ⟨atomic_explores opened body, ?_⟩
      intro place next found
      obtain ⟨_, reached, same⟩ := (ih opened).1.sound found
      cases same
      exact (ih opened).2 place next reached
  | ahead negated body ih =>
      refine ⟨ahead_explores (ih opened).1 negated, ?_⟩
      intro place next leads
      cases negated with
      | false =>
          obtain ⟨found, _, rfl⟩ := leads
          exact ⟨Nat.le_refl _, rfl⟩
      | true =>
          obtain ⟨_, rfl⟩ := leads
          exact .refl _
  | behind negated width body ih =>
      refine ⟨behind_explores (ih opened).1 negated width, ?_⟩
      intro place next leads
      cases negated with
      | false =>
          obtain ⟨_, found, _, rfl⟩ := leads
          exact ⟨Nat.le_refl _, rfl⟩
      | true =>
          obtain ⟨_, rfl⟩ := leads
          exact .refl _
  | same index rule =>
      refine ⟨same_explores opened index rule, ?_⟩
      rintro place next ⟨text, _, taken⟩
      obtain ⟨other, reads⟩ := takeSame_reads taken
      exact reads.ahead
  | ifGroup index yes no ih₁ ih₂ =>
      refine ⟨ifGroup_explores (ih₁ opened).1 (ih₂ opened).1 index, ?_⟩
      intro place next leads
      simp only [Node.Leads] at leads
      split at leads
      · exact (ih₁ opened).2 place next leads
      · exact (ih₂ opened).2 place next leads
  | anchor edge =>
      refine ⟨anchor_explores opened edge, ?_⟩
      rintro place next ⟨_, rfl⟩
      exact .refl _

/-- A match of the whole of a subject ends at a place that the pattern leads to, with nothing behind
it.
-/
theorem Node.fullMatch?_leads {node : Node} {subject : List Char} {place : Place}
    (matched : node.fullMatch? subject = some place)
    : node.Leads [] (.start subject) place ∧ place.after = [] := by
  obtain ⟨next, leads, whole⟩ := (run_explores_ahead [] node).1.sound matched
  split at whole
  · rename_i finished
    cases whole
    exact ⟨leads, List.isEmpty_iff.mp finished⟩
  · cases whole

/-- The whole of a subject is matched exactly if the pattern leads to a place with nothing behind
it.
-/
theorem Node.fullMatch?_isSome_iff {node : Node} {subject : List Char}
    : (node.fullMatch? subject).isSome
      ↔ ∃ place, node.Leads [] (.start subject) place ∧ place.after = [] := by
  constructor
  · intro matched
    obtain ⟨place, matched⟩ := Option.isSome_iff_exists.mp matched
    exact ⟨place, node.fullMatch?_leads matched⟩
  · rintro ⟨place, leads, finished⟩
    exact (run_explores_ahead [] node).1.complete leads (by simp [finished])

end Conductor.Pattern
