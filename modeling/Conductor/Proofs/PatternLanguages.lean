import Conductor.Proofs.PatternLeads
import Mathlib.Computability.Language

/-! Languages of patterns. A pattern without groups and places leads to the places behind the texts
of a language, which is put together like the pattern.
-/

namespace Conductor.Pattern

open Computability

/-- `node.Spells language` says that a pattern leads exactly to the places behind texts of a
language, whatever else the subject holds and whatever groups are open.
-/
def Node.Spells (node : Node) (language : Language Char) : Prop :=
  ∀ opened place next, node.Leads opened place next ↔ ∃ text ∈ language, place.Reads text next

/-- The pattern for one character as it is. -/
def literal (c : Char) : Node :=
  .char (.single c.toNat .exact)

/-- Compared as they are, only a character itself is in the class of it alone. -/
theorem single_has {c d : Char} : (CharClass.single c.toNat .exact).has d = true ↔ d = c := by
  simp only [CharClass.has, CharClass.single, CaseRule.fold, CaseRule.sources, ClassItem.has,
    List.any_cons, List.any_nil, Bool.or_false, Bool.bne_false, Bool.and_eq_true,
    decide_eq_true_eq]
  constructor
  · rintro ⟨below, above⟩
    exact Char.toNat_inj.mp (Nat.le_antisymm above below)
  · rintro rfl
    exact ⟨Nat.le_refl _, Nat.le_refl _⟩

/-- The class of the ASCII digits. -/
def asciiDigits : CharClass := ⟨false, [.range 48 57], .exact⟩

theorem asciiDigits_has {c : Char} : asciiDigits.has c = true ↔ c.isDigit = true := by
  simp only [asciiDigits, CharClass.has, CaseRule.fold, CaseRule.sources, ClassItem.has,
    List.any_cons, List.any_nil, Bool.or_false, Bool.bne_false, Char.isDigit]
  rfl

theorem notLineFeed_has {c : Char} : CharClass.notLineFeed.has c = true ↔ c ≠ '\n' := by
  have others : CharClass.notLineFeed.has c = !(CharClass.single '\n'.toNat .exact).has c := by
    simp [CharClass.has, CharClass.notLineFeed, CharClass.single]
  rw [others, Bool.not_eq_true', ← Bool.not_eq_true, single_has]

theorem literal_spells (c : Char) : (literal c).Spells {[c]} := by
  intro opened place next
  constructor
  · rintro ⟨text, runs, enough⟩
    have short : text.length ≤ 1 := runs.within 1 rfl
    obtain ⟨d, rfl⟩ := List.length_eq_one_iff.mp (Nat.le_antisymm short enough)
    obtain rfl := single_has.mp (runs.held d (List.mem_singleton_self d))
    exact ⟨_, rfl, runs.reads⟩
  · rintro ⟨text, rfl, reads⟩
    refine ⟨[c], ⟨reads, ?_, ?_⟩, Nat.le_refl 1⟩
    · exact List.forall_mem_singleton.mpr (single_has.mpr rfl)
    · rintro limit ⟨⟩
      exact Nat.le_refl 1

/-- One or more characters of a class spell the texts of such characters that are not empty. -/
theorem chars_spells (cls : CharClass)
    : (Node.chars cls 1 none .greedy).Spells
        {text | text ≠ [] ∧ ∀ c ∈ text, cls.has c = true} := by
  intro opened place next
  constructor
  · rintro ⟨text, runs, enough⟩
    exact ⟨text, ⟨List.ne_nil_of_length_pos enough, runs.held⟩, runs.reads⟩
  · rintro ⟨text, ⟨enough, held⟩, reads⟩
    exact ⟨text, ⟨reads, held, nofun⟩, List.length_pos_of_ne_nil enough⟩

namespace Node.Spells

variable {first second body : Node} {l m : Language Char}

theorem seq (spells : first.Spells l) (spells' : second.Spells m)
    : (Node.seq first second).Spells (l * m) := by
  intro opened place next
  constructor
  · rintro ⟨mid, leads, leads'⟩
    obtain ⟨text, member, reads⟩ := (spells opened place mid).mp leads
    obtain ⟨text', member', reads'⟩ := (spells' opened mid next).mp leads'
    exact ⟨_, Language.append_mem_mul member member', reads.append reads'⟩
  · rintro ⟨_, both, reads⟩
    obtain ⟨text, member, text', member', rfl⟩ := Language.mem_mul.mp both
    obtain ⟨mid, reads, reads'⟩ := reads.split
    exact ⟨mid, (spells opened place mid).mpr ⟨text, member, reads⟩,
      (spells' opened mid next).mpr ⟨text', member', reads'⟩⟩

/-- Further steps read texts of the language of the body, one behind the other. -/
theorem further_reads (spells : body.Spells l) {opened : Opened} {max last : Option Nat}
    {place next : Place} (further : Further (body.Leads opened) max last place next)
    : ∃ text ∈ l∗, place.Reads text next := by
  induction further with
  | stop => exact ⟨[], Language.nil_mem_kstar l, .nil _⟩
  | step _ _ first _ ih =>
      obtain ⟨text, member, reads⟩ := (spells _ _ _).mp first
      obtain ⟨texts, members, reads'⟩ := ih
      refine ⟨text ++ texts, ?_, reads.append reads'⟩
      rw [← Language.one_add_self_mul_kstar_eq_kstar l]
      exact Or.inr (Language.append_mem_mul member members)

/-- Texts of the body, none of them empty, are read by further steps.
Witness: induction on the texts; the steps move, so none of them is refused.
-/
theorem further_of_reads (spells : body.Spells l) (moves : [] ∉ l) {texts : List (List Char)}
    (members : ∀ text ∈ texts, text ∈ l) {opened : Opened} {last : Option Nat} {place next : Place}
    (moved : ∀ position ∈ last, position < place.position)
    (reads : place.Reads texts.flatten next)
    : Further (body.Leads opened) none last place next := by
  induction texts generalizing place last with
  | nil =>
      cases (Place.Reads.nil place).unique reads
      exact .stop
  | cons text texts ih =>
      obtain ⟨member, members⟩ := List.forall_mem_cons.mp members
      obtain ⟨mid, reads, reads'⟩ := reads.split
      have longer : text ≠ [] := fun empty => moves (empty ▸ member)
      have onwards : place.position < mid.position := by
        have position := reads.position
        have length := List.length_pos_of_ne_nil longer
        omega
      have allowed : more none = some none := rfl
      refine .step allowed ?_ ((spells opened place mid).mpr ⟨text, member, reads⟩) ?_
      · intro same
        exact Nat.lt_irrefl _ (moved _ same)
      · refine ih members ?_ reads'
        rintro _ ⟨⟩
        exact onwards

/-- A loop without bounds spells the texts in a row that its body spells. -/
theorem loop (spells : body.Spells l) (moves : [] ∉ l)
    : (Node.loop body 0 none .greedy).Spells l∗ := by
  intro opened place next
  constructor
  · rintro ⟨_, rfl, further⟩
    exact spells.further_reads further
  · rintro ⟨_, ⟨texts, rfl, members⟩, reads⟩
    exact ⟨place, rfl, spells.further_of_reads moves members nofun reads⟩

/-- What may be left out spells nothing too. -/
theorem option (spells : body.Spells l)
    : (Node.loop body 0 (some 1) .greedy).Spells (1 + l) := by
  intro opened place next
  constructor
  · rintro ⟨_, rfl, further⟩
    cases further with
    | stop => exact ⟨[], Or.inl rfl, .nil _⟩
    | step allowed _ first rest =>
        cases allowed
        obtain ⟨text, member, reads⟩ := (spells _ _ _).mp first
        cases rest with
        | stop => exact ⟨text, Or.inr member, reads⟩
        | step allowed => cases allowed
  · rintro ⟨text, member | member, reads⟩
    · obtain rfl : text = [] := member
      cases (Place.Reads.nil place).unique reads
      exact ⟨place, rfl, .stop⟩
    · exact ⟨place, rfl,
        .step rfl nofun ((spells opened place next).mpr ⟨text, member, reads⟩) .stop⟩

end Node.Spells

/-- A sequence leads through the places behind its elements. -/
theorem ofList_cons_leads {opened : Opened} {node : Node} {rest : List Node} {place next : Place}
    : (Node.ofList (node :: rest)).Leads opened place next
      ↔ ∃ mid, node.Leads opened place mid ∧ (Node.ofList rest).Leads opened mid next := by
  cases rest with
  | nil => simp [Node.ofList, Node.Leads]
  | cons other rest => rfl

theorem ofList_literals_leads {opened : Opened} {text : List Char} {rest : List Node}
    {place next : Place}
    : (Node.ofList (text.map literal ++ rest)).Leads opened place next
      ↔ ∃ mid, place.Reads text mid ∧ (Node.ofList rest).Leads opened mid next := by
  induction text generalizing place with
  | nil =>
      constructor
      · intro leads
        exact ⟨place, .nil place, leads⟩
      · rintro ⟨mid, reads, leads⟩
        cases (Place.Reads.nil place).unique reads
        exact leads
  | cons c text ih =>
      simp only [List.map_cons, List.cons_append, ofList_cons_leads, ih]
      constructor
      · rintro ⟨mid, first, mid', reads, leads⟩
        obtain ⟨_, rfl, first⟩ := (literal_spells c opened place mid).mp first
        exact ⟨mid', first.append reads, leads⟩
      · rintro ⟨mid', reads, leads⟩
        have reads : place.Reads ([c] ++ text) mid' := reads
        obtain ⟨mid, first, reads⟩ := reads.split
        exact ⟨mid, (literal_spells c opened place mid).mpr ⟨[c], rfl, first⟩, mid', reads, leads⟩

end Conductor.Pattern
