import Conductor.Pattern.Matching
import Mathlib.Data.List.Induction

/-! The runs of characters that patterns take. A search for a run goes on from the places behind
runs of the class only, and it misses none that it could go on from.
-/

namespace Conductor.Pattern

-----------------------------------------------------------------------------------------
-- Texts between places
-----------------------------------------------------------------------------------------

/-- A text is ahead of a place, and the next place is behind that text. -/
structure Place.Reads (place : Place) (text : List Char) (next : Place) : Prop where
  after : place.after = text ++ next.after
  before : next.before = text.reverse ++ place.before
  position : next.position = place.position + text.length
  groups : next.groups = place.groups

namespace Place.Reads

variable {place mid next other : Place} {first second text : List Char}

theorem nil (place : Place) : place.Reads [] place := ⟨rfl, rfl, rfl, rfl⟩

/-- One text leads to one place, field by field. -/
theorem unique (reads : place.Reads text next) (reads' : place.Reads text other)
    : next = other := by
  have after := List.append_cancel_left (reads.after.symm.trans reads'.after)
  have before := reads.before.trans reads'.before.symm
  have position := reads.position.trans reads'.position.symm
  have groups := reads.groups.trans reads'.groups.symm
  cases next
  cases other
  simp_all only

theorem append (reads : place.Reads first mid) (reads' : mid.Reads second next)
    : place.Reads (first ++ second) next where
  after := by rw [reads.after, reads'.after, List.append_assoc]
  before := by rw [reads'.before, reads.before, List.reverse_append, List.append_assoc]
  position := by rw [reads'.position, reads.position, List.length_append, Nat.add_assoc]
  groups := reads'.groups.trans reads.groups

/-- A text that begins what is ahead is read up to the place behind it. -/
theorem exists_next (ahead : place.after = text ++ second)
    : ∃ next, place.Reads text next ∧ next.after = second :=
  ⟨⟨text.reverse ++ place.before, second, place.position + text.length, place.groups⟩,
    ⟨ahead, rfl, rfl, rfl⟩, rfl⟩

/-- A text in two parts is read through a place between them. -/
theorem split (reads : place.Reads (first ++ second) next)
    : ∃ mid, place.Reads first mid ∧ mid.Reads second next := by
  have ahead := reads.after
  rw [List.append_assoc] at ahead
  obtain ⟨mid, reads', rest⟩ := exists_next ahead
  refine ⟨mid, reads', rest, ?_, ?_, reads.groups.trans reads'.groups.symm⟩
  · rw [reads.before, reads'.before, List.reverse_append, List.append_assoc]
  · rw [reads.position, reads'.position, List.length_append, Nat.add_assoc]

/-- Of two texts ahead of a place the shorter one begins the longer one. -/
theorem prefix_of_length_le (reads : place.Reads first mid) (reads' : place.Reads second next)
    (shorter : first.length ≤ second.length)
    : first <+: second := by
  have begins : first <+: place.after := ⟨_, reads.after.symm⟩
  exact List.prefix_of_prefix_length_le begins ⟨_, reads'.after.symm⟩ shorter

/-- The place before the last character of a text is one back from the place behind it. -/
theorem back {c : Char} (reads : place.Reads (text ++ [c]) next)
    : place.Reads text next.back := by
  obtain ⟨mid, reads', last⟩ := reads.split
  have same : next.back = mid := by
    rw [Place.back, last.before]
    have after := last.after
    have position := last.position
    have groups := last.groups
    cases mid
    simp_all
  rw [same]
  exact reads'

/-- The place before the last characters of a text is as many back, by induction on these. -/
theorem backBy (reads : place.Reads (first ++ second) next)
    : place.Reads first (next.backBy second.length) := by
  induction second using List.reverseRecOn generalizing next with
  | nil => simpa [Place.backBy] using reads
  | append_singleton second c ih =>
      rw [← List.append_assoc] at reads
      simpa [Place.backBy] using ih reads.back

end Place.Reads

/-- The place behind the next character of a class is the one behind a text of it alone. -/
theorem Place.take?_eq_some_iff {cls : CharClass} {place next : Place}
    : place.take? cls = some next ↔ ∃ c, cls.has c = true ∧ place.Reads [c] next := by
  constructor
  · intro taken
    rcases place with ⟨before, _ | ⟨c, rest⟩, position, groups⟩
    · cases taken
    · by_cases held : cls.has c = true
      · simp only [take?, held, if_true, Option.some.injEq] at taken
        subst taken
        exact ⟨c, held, rfl, rfl, rfl, rfl⟩
      · simp [take?, held] at taken
  · rintro ⟨c, held, reads⟩
    rcases place with ⟨before, after, position, groups⟩
    obtain rfl : after = c :: next.after := reads.after
    have known : Place.Reads ⟨before, c :: next.after, position, groups⟩ [c]
        ⟨c :: before, next.after, position + 1, groups⟩ := ⟨rfl, rfl, rfl, rfl⟩
    simp [take?, held, known.unique reads]

-----------------------------------------------------------------------------------------
-- Runs of characters
-----------------------------------------------------------------------------------------

/-- A text ahead of a place is a run of characters of a class, no longer than a bound. -/
structure Place.Runs (cls : CharClass) (max : Option Nat) (place : Place) (text : List Char)
    (next : Place) : Prop where
  reads : place.Reads text next
  held : ∀ c ∈ text, cls.has c = true
  within : ∀ limit ∈ max, text.length ≤ limit

/-- What is left of a bound holds one run less. -/
theorem more_eq_some_iff {max left : Option Nat} {n : Nat} (allowed : more max = some left)
    : (∀ limit ∈ max, n + 1 ≤ limit) ↔ ∀ limit ∈ left, n ≤ limit := by
  rcases max with _ | _ | max
  · cases allowed
    simp
  · cases allowed
  · cases allowed
    simp

theorem more_eq_none_iff {max : Option Nat} : more max = none ↔ max = some 0 := by
  rcases max with _ | _ | max <;> simp [more]

namespace Place.Runs

variable {cls : CharClass} {max left : Option Nat} {place mid next : Place} {text : List Char}

theorem nil (cls : CharClass) (max : Option Nat) (place : Place) : place.Runs cls max [] place :=
  ⟨.nil place, nofun, fun _ _ => Nat.zero_le _⟩

/-- A run may be preceded by a further character, if the bound allows one more. -/
theorem cons (allowed : more max = some left) (taken : place.take? cls = some mid)
    (runs : mid.Runs cls left text next)
    : ∃ c, place.Runs cls max (c :: text) next := by
  obtain ⟨c, held, reads⟩ := Place.take?_eq_some_iff.mp taken
  exact ⟨c, reads.append runs.reads, List.forall_mem_cons.mpr ⟨held, runs.held⟩,
    (more_eq_some_iff allowed).mpr runs.within⟩

/-- Behind the first character of a run the rest is one. -/
theorem uncons {c : Char} (runs : place.Runs cls max (c :: text) next)
    : ∃ left mid,
        more max = some left ∧ place.take? cls = some mid ∧ mid.Runs cls left text next := by
  obtain ⟨held, others⟩ := List.forall_mem_cons.mp runs.held
  have reads : place.Reads ([c] ++ text) next := runs.reads
  obtain ⟨mid, first, rest⟩ := reads.split
  cases allowed : more max with
  | none =>
      rw [more_eq_none_iff] at allowed
      exact absurd (runs.within 0 allowed) (Nat.not_succ_le_zero _)
  | some left =>
      exact ⟨left, mid, rfl, Place.take?_eq_some_iff.mpr ⟨c, held, first⟩, rest, others,
        (more_eq_some_iff allowed).mp runs.within⟩

/-- Where no character can be taken no run is longer than nothing. -/
theorem length_le_zero (stuck : more max = none ∨ place.take? cls = none)
    (runs : place.Runs cls max text next)
    : text.length ≤ 0 := by
  cases text with
  | nil => exact Nat.le_refl 0
  | cons c text =>
      obtain ⟨left, mid, allowed, taken, _⟩ := runs.uncons
      simp [allowed, taken] at stuck

end Place.Runs

/-- The longest run of a class is taken. Witness: induction on the text ahead. -/
theorem takeRun_longest (cls : CharClass) (count : Nat) (place : Place) (max : Option Nat)
    : ∃ text next,
        takeRun cls count place place.after max = (count + text.length, next)
        ∧ place.Runs cls max text next
        ∧ ∀ other last, place.Runs cls max other last → other.length ≤ text.length := by
  generalize ahead : place.after = rest
  induction rest generalizing place count max with
  | nil =>
      have stuck : place.take? cls = none := by simp [Place.take?, ahead]
      exact ⟨[], place, rfl, .nil cls max place,
        fun _ _ runs => runs.length_le_zero (Or.inr stuck)⟩
  | cons c rest ih =>
      simp only [takeRun]
      cases allowed : more max with
      | none =>
          exact ⟨[], place, rfl, .nil cls max place,
            fun _ _ runs => runs.length_le_zero (Or.inl allowed)⟩
      | some left =>
          cases taken : place.take? cls with
          | none =>
              exact ⟨[], place, rfl, .nil cls max place,
                fun _ _ runs => runs.length_le_zero (Or.inr taken)⟩
          | some mid =>
              obtain ⟨d, _, first⟩ := Place.take?_eq_some_iff.mp taken
              have behind : mid.after = rest := by
                have known := first.after
                rw [ahead] at known
                exact (List.cons.inj known).2.symm
              obtain ⟨text, next, longest, runs, most⟩ := ih (count + 1) mid left behind
              obtain ⟨first, longer⟩ := Place.Runs.cons allowed taken runs
              refine ⟨first :: text, next, ?_, longer, ?_⟩
              · simpa [Nat.add_comm, Nat.add_left_comm] using longest
              intro other last runs
              cases other with
              | nil => exact Nat.zero_le _
              | cons e other =>
                  obtain ⟨left', mid', allowed', taken', others⟩ := runs.uncons
                  cases allowed.symm.trans allowed'
                  cases taken.symm.trans taken'
                  exact Nat.succ_le_succ (most other last others)

/-- A search for a place to go on from: `k` is asked about places until it succeeds. It is asked
about places that `leads` allows only, and about one on which it succeeds if there is any.
-/
structure Explores (leads : Place → Place → Prop) (search : Continuation → Continuation)
    : Prop where
  sound
    : ∀ {k place result},
        search k place = some result → ∃ next, leads place next ∧ k next = some result
  complete
    : ∀ {k place next}, leads place next → (k next).isSome → (search k place).isSome

/-- Characters are given back one at a time, by induction on their number. -/
theorem giveBack_sound {k : Continuation} {count : Nat} {place result : Place}
    (found : giveBack k count place = some result)
    : ∃ n ≤ count, k (place.backBy n) = some result := by
  induction count generalizing place with
  | zero => exact ⟨0, Nat.le_refl 0, found⟩
  | succ count ih =>
      cases here : k place with
      | some other =>
          simp only [giveBack, here] at found
          exact ⟨0, Nat.zero_le _, here.trans found⟩
      | none =>
          simp only [giveBack, here] at found
          obtain ⟨n, within, found⟩ := ih found
          exact ⟨n + 1, Nat.succ_le_succ within, found⟩

theorem giveBack_complete {k : Continuation} {count n : Nat} {place : Place} (within : n ≤ count)
    (goes : (k (place.backBy n)).isSome)
    : (giveBack k count place).isSome := by
  induction count generalizing place n with
  | zero =>
      obtain rfl := Nat.le_zero.mp within
      exact goes
  | succ count ih =>
      cases here : k place with
      | some other => simp [giveBack, here]
      | none =>
          simp only [giveBack, here]
          cases n with
          | zero => simp [Place.backBy, here] at goes
          | succ n => exact ih (Nat.le_of_succ_le_succ within) goes

/-- Further characters of a class are taken one at a time, by induction on the text ahead. -/
theorem takeMore_sound {cls : CharClass} {k : Continuation} {place result : Place}
    {rest : List Char} {max : Option Nat}
    (found : takeMore cls k place rest max = some result)
    : ∃ text next, place.Runs cls max text next ∧ k next = some result := by
  induction rest generalizing place max with
  | nil => exact ⟨[], place, .nil cls max place, found⟩
  | cons c rest ih =>
      cases here : k place with
      | some other =>
          simp only [takeMore, here] at found
          exact ⟨[], place, .nil cls max place, here.trans found⟩
      | none =>
          simp only [takeMore, here] at found
          split at found
          · rename_i left mid allowed taken
            obtain ⟨text, next, runs, goes⟩ := ih found
            obtain ⟨first, longer⟩ := Place.Runs.cons allowed taken runs
            exact ⟨first :: text, next, longer, goes⟩
          · cases found

theorem takeMore_complete {cls : CharClass} {k : Continuation} {place next : Place}
    {text : List Char} {max : Option Nat} (runs : place.Runs cls max text next)
    (goes : (k next).isSome)
    : (takeMore cls k place place.after max).isSome := by
  induction text generalizing place max with
  | nil =>
      obtain rfl := (Place.Reads.nil place).unique runs.reads
      cases place.after with
      | nil => exact goes
      | cons c rest =>
          obtain ⟨result, found⟩ := Option.isSome_iff_exists.mp goes
          simp [takeMore, found]
  | cons c text ih =>
      obtain ⟨left, mid, allowed, taken, others⟩ := runs.uncons
      have ahead := runs.reads.after
      obtain ⟨d, _, first⟩ := Place.take?_eq_some_iff.mp taken
      have same := first.after.symm.trans ahead
      rw [ahead]
      simp only [takeMore, List.cons_append]
      cases k place with
      | some other => rfl
      | none =>
          have behind : mid.after = text ++ next.after := (List.cons.inj same).2
          simpa only [allowed, taken, behind] using ih others

/-- A run of characters, as long as possible at first, is given back down to the least length. -/
theorem runChars_explores_greedy (cls : CharClass) (min : Nat) (max : Option Nat)
    : Explores (fun place next => ∃ text, place.Runs cls max text next ∧ min ≤ text.length)
        (runChars cls min max .greedy) where
  sound := by
    intro k place result found
    obtain ⟨text, last, longest, runs, _⟩ := takeRun_longest cls 0 place max
    simp only [runChars, longest, Nat.zero_add] at found
    split at found
    · cases found
    obtain ⟨n, within, found⟩ := giveBack_sound found
    -- the run without its last `n` characters
    have parts := List.take_append_drop (text.length - n) text
    have reads := runs.reads
    rw [← parts] at reads
    have back := reads.backBy
    rw [List.length_drop, Nat.sub_sub_self (by omega)] at back
    refine ⟨_, ⟨text.take (text.length - n), ⟨back, ?_, ?_⟩, ?_⟩, found⟩
    · exact fun c member => runs.held c (List.mem_of_mem_take member)
    · intro limit bound
      exact Nat.le_trans (List.length_take_le' _ _) (runs.within limit bound)
    · rw [List.length_take]
      omega
  complete := by
    intro k place next ⟨text, runs, enough⟩ goes
    obtain ⟨all, last, longest, runs', most⟩ := takeRun_longest cls 0 place max
    have shorter := most text next runs
    obtain ⟨rest, parts⟩ := runs.reads.prefix_of_length_le runs'.reads shorter
    have reads := runs'.reads
    rw [← parts] at reads
    have same := reads.backBy.unique runs.reads
    have lengths := congrArg List.length parts
    rw [List.length_append] at lengths
    simp only [runChars, longest, Nat.zero_add]
    rw [if_neg (by omega)]
    exact giveBack_complete (n := rest.length) (by omega) (by rw [same]; exact goes)

/-- The least number of characters is taken first, and then one more at a time. -/
theorem runChars_explores_lazy (cls : CharClass) (min : Nat) (max : Option Nat)
    : Explores
        (fun place next =>
          ∃ first mid more,
            place.Runs cls (some min) first mid
            ∧ min ≤ first.length
            ∧ mid.Runs cls (max.map (· - min)) more next)
        (runChars cls min max .lazy) where
  sound := by
    intro k place result found
    obtain ⟨first, mid, longest, runs, _⟩ := takeRun_longest cls 0 place (some min)
    simp only [runChars, longest, Nat.zero_add] at found
    split at found
    · cases found
    obtain ⟨more, next, runs', found⟩ := takeMore_sound found
    exact ⟨next, ⟨first, mid, more, runs, by omega, runs'⟩, found⟩
  complete := by
    intro k place next ⟨first, mid, more, runs, enough, runs'⟩ goes
    obtain ⟨all, last, longest, runsAll, most⟩ := takeRun_longest cls 0 place (some min)
    have shorter := most first mid runs
    obtain ⟨rest, parts⟩ := runs.reads.prefix_of_length_le runsAll.reads shorter
    have bound := runsAll.within min rfl
    have lengths := congrArg List.length parts
    rw [List.length_append] at lengths
    obtain rfl : rest = [] := List.eq_nil_of_length_eq_zero (by omega)
    rw [List.append_nil] at parts
    subst parts
    cases runs.reads.unique runsAll.reads
    simp only [runChars, longest, Nat.zero_add]
    rw [if_neg (by omega)]
    exact takeMore_complete runs' goes

/-- A search that goes on from one place at most. -/
theorem Explores.of_bind {leads : Place → Place → Prop} {search : Continuation → Continuation}
    (final : Place → Option Place) (only : ∀ place next, leads place next ↔ final place = some next)
    (search_eq : ∀ k place, search k place = (final place).bind k)
    : Explores leads search where
  sound := by
    intro k place result found
    rw [search_eq, Option.bind_eq_some_iff] at found
    obtain ⟨next, reached, found⟩ := found
    exact ⟨next, (only place next).mpr reached, found⟩
  complete := by
    intro k place next reached goes
    rw [search_eq, (only place next).mp reached]
    exact goes

/-- A run of characters as long as possible, of which none is given back. -/
theorem runChars_explores_possessive (cls : CharClass) (min : Nat) (max : Option Nat)
    : Explores
        (fun place next =>
          ∃ text,
            place.Runs cls max text next
            ∧ min ≤ text.length
            ∧ ∀ other last, place.Runs cls max other last → other.length ≤ text.length)
        (runChars cls min max .possessive) := by
  refine .of_bind
    (fun place =>
      let taken := takeRun cls 0 place place.after max
      if taken.1 < min then none else some taken.2) ?_ ?_
  · intro place next
    obtain ⟨all, last, longest, runs, most⟩ := takeRun_longest cls 0 place max
    simp only [longest, Nat.zero_add]
    constructor
    · rintro ⟨text, runs', enough, most'⟩
      have same := Nat.le_antisymm (most text next runs') (most' all last runs)
      have begins := runs'.reads.prefix_of_length_le runs.reads (Nat.le_of_eq same)
      have parts := begins.eq_of_length same
      subst parts
      rw [if_neg (by omega), runs.reads.unique runs'.reads]
    · intro reached
      split at reached
      · cases reached
      cases reached
      exact ⟨all, runs, by omega, most⟩
  · intro k place
    simp only [runChars]
    split <;> rfl

end Conductor.Pattern
