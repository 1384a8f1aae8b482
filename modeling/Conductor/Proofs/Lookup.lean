import Conductor.Assoc
import Mathlib.Data.List.Nodup

/-! What is looked up in association lists. Where no key has two entries, an entry is found exactly
if it is there. Bindings that are added to a list go before it, and the last one of a key before all
others of the key.
-/

namespace Conductor

variable {α β : Type} [BEq α] [LawfulBEq α]

/-- Nothing is found exactly under keys that have no entry. -/
theorem lookup_eq_none_iff_notMem {entries : List (α × β)} {key : α}
    : entries.lookup key = none ↔ key ∉ entries.map Prod.fst := by
  rw [List.lookup_eq_none_iff, List.mem_map]
  constructor
  · rintro other ⟨entry, member, rfl⟩
    simpa using other entry member
  · intro other entry member
    have different : key ≠ entry.1 := fun same => other ⟨entry, member, same.symm⟩
    simpa using different

/-- The entry of a key is what is looked up under it, when no key has two.
Witness: the entry splits the list, and its key is not among those before it.
-/
theorem lookup_eq_some_iff_mem {entries : List (α × β)}
    (unique : (entries.map Prod.fst).Nodup) (key : α) (item : β)
    : entries.lookup key = some item ↔ (key, item) ∈ entries := by
  constructor
  · intro found
    obtain ⟨before, after, rfl, _⟩ := List.lookup_eq_some_iff.mp found
    simp
  · intro member
    obtain ⟨before, after, rfl⟩ := List.append_of_mem member
    rw [List.map_append, List.map_cons] at unique
    have fresh := (List.nodup_middle.mp unique).notMem
    have none : before.lookup key = none :=
      lookup_eq_none_iff_notMem.mpr fun old => fresh (List.mem_append_left _ old)
    rw [List.lookup_append, none, Option.none_or, List.lookup_cons_self]

/-- When no key has two entries, it does not matter from which end they are looked up. -/
theorem lookup_reverse {entries : List (α × β)} (unique : (entries.map Prod.fst).Nodup) (key : α)
    : entries.reverse.lookup key = entries.lookup key := by
  have backwards : (entries.reverse.map Prod.fst).Nodup := by
    rw [List.map_reverse]
    exact List.nodup_reverse.mpr unique
  refine Option.ext fun item => ?_
  rw [lookup_eq_some_iff_mem backwards, lookup_eq_some_iff_mem unique, List.mem_reverse]

namespace Assoc

/-- A binding adds its key, unless it is there, by induction on the list. -/
theorem mem_keys_insert (list : Assoc α β) (key : α) (value : β) (other : α)
    : other ∈ (insert list key value).map Prod.fst ↔ other = key ∨ other ∈ list.map Prod.fst := by
  induction list with
  | nil => simp [insert]
  | cons entry rest ih =>
      obtain ⟨k, v⟩ := entry
      unfold insert
      by_cases same : (k == key) = true
      · rw [if_pos same, eq_of_beq same, List.map_cons, List.map_cons]
        simp
      · rw [if_neg same, List.map_cons, List.map_cons, List.mem_cons, ih, List.mem_cons]
        exact or_left_comm

/-- A binding gives no key a second entry, by induction on the list. -/
theorem nodup_insert {list : Assoc α β} (unique : (list.map Prod.fst).Nodup) (key : α) (value : β)
    : ((insert list key value).map Prod.fst).Nodup := by
  induction list with
  | nil => simp [insert]
  | cons entry rest ih =>
      obtain ⟨k, v⟩ := entry
      obtain ⟨fresh, others⟩ := List.nodup_cons.mp unique
      unfold insert
      by_cases same : (k == key) = true
      · rw [if_pos same]
        exact unique
      · rw [if_neg same]
        refine List.nodup_cons.mpr ⟨?_, ih others⟩
        rw [mem_keys_insert]
        rintro (rfl | old)
        · exact same BEq.rfl
        · exact fresh old

/-- Bindings in a row give no key a second entry, by induction on them. -/
theorem nodup_insertAll {list : Assoc α β} (unique : (list.map Prod.fst).Nodup)
    (bindings : List (α × β))
    : ((insertAll list bindings).map Prod.fst).Nodup := by
  unfold insertAll
  induction bindings generalizing list with
  | nil => exact unique
  | cons binding rest ih => exact ih (nodup_insert unique binding.1 binding.2)

/-- A binding is found under its key, and goes before what the list has there, by induction on the
list.
-/
theorem lookup_insert (list : Assoc α β) (key : α) (value : β) (other : α)
    : (insert list key value).lookup other
      = ([(key, value)].lookup other).or (list.lookup other) := by
  induction list with
  | nil => simp [insert]
  | cons entry rest ih =>
      obtain ⟨k, v⟩ := entry
      unfold insert
      by_cases same : (k == key) = true
      · rw [if_pos same, eq_of_beq same]
        by_cases found : other == key <;> simp [List.lookup_cons, found]
      · rw [if_neg same, List.lookup_cons, ih]
        by_cases first : (other == k) = true
        · have different : (other == key) = false := by
            rw [eq_of_beq first]
            simpa using same
          simp [List.lookup_cons, first, different]
        · simp [List.lookup_cons, first]

/-- Of bindings in a row the last one of a key goes before what the list has, by induction on them.
-/
theorem lookup_insertAll (list : Assoc α β) (bindings : List (α × β)) (key : α)
    : (insertAll list bindings).lookup key
      = (bindings.reverse.lookup key).or (list.lookup key) := by
  unfold insertAll
  induction bindings generalizing list with
  | nil => rfl
  | cons binding rest ih =>
      rw [List.foldl_cons, ih, lookup_insert, List.reverse_cons, List.lookup_append,
        Option.or_assoc]

/-- A table of bindings holds the last one of each key. -/
theorem lookup_ofBindings (bindings : List (α × β)) (key : α)
    : (ofBindings bindings).lookup key = bindings.reverse.lookup key := by
  rw [ofBindings, lookup_insertAll, List.lookup_nil, Option.or_none]

theorem nodup_ofBindings (bindings : List (α × β))
    : ((ofBindings bindings).map Prod.fst).Nodup := by
  have empty : (([] : Assoc α β).map Prod.fst).Nodup := List.nodup_nil
  exact nodup_insertAll empty bindings

/-- A list overridden by a table of bindings is overridden by the last binding of each key. -/
theorem lookup_insertAll_ofBindings (list : Assoc α β) (bindings : List (α × β)) (key : α)
    : (insertAll list (ofBindings bindings)).lookup key
      = (bindings.reverse.lookup key).or (list.lookup key) := by
  rw [lookup_insertAll, lookup_reverse (nodup_ofBindings bindings), lookup_ofBindings]

end Assoc

end Conductor
