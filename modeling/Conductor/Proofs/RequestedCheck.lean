import Conductor.Proofs.CommentGate

/-! Checks that are requested by name. The name of each job of the suite leads to the factory of
that job, and no other text leads anywhere; so a request runs the checks of one job or none.
-/

namespace Conductor

variable {ε : Type}

theorem Text.ofString_injective : Function.Injective Text.ofString := by
  intro first second same
  have chars := List.map_injective_iff.mpr (fun _ _ => TextUnit.char.inj) same
  exact String.toList_injective chars

namespace CheckRequest

/-- A text is the name of a job of the suite, or of none. -/
theorem known_or_other (config : Config) (name : Text)
    : (∃ spec ∈ Catalog.suite config, Text.ofString spec.name = name)
      ∨ ∀ spec ∈ Catalog.suite config, Text.ofString spec.name ≠ name := by
  by_cases known : ∃ spec ∈ Catalog.suite config, Text.ofString spec.name = name
  · exact Or.inl known
  · exact Or.inr fun spec member same => known ⟨spec, member, same⟩

section Lookup

variable {factories : List (Factory ε)} {name : Text}

/-- Of factories with different keys, each is found by its own.
Witness: some factory has the key, and no other factory does.
-/
theorem factory?_of_mem (different : (factories.map Factory.key).Nodup) {factory : Factory ε}
    (member : factory ∈ factories)
    : factory? factories (Text.ofString factory.key) = some factory := by
  have known : (factory? factories (Text.ofString factory.key)).isSome := by
    rw [factory?, List.find?_isSome]
    exact ⟨factory, member, beq_self_eq_true _⟩
  obtain ⟨other, found⟩ := Option.isSome_iff_exists.mp known
  have same := List.find?_some found
  have keys : other.key = factory.key := Text.ofString_injective (eq_of_beq same)
  obtain rfl : other = factory :=
    List.inj_on_of_nodup_map different (List.mem_of_find?_eq_some found) member keys
  exact found

theorem factory?_eq_none_iff
    : factory? factories name = none
      ↔ ∀ factory ∈ factories, Text.ofString factory.key ≠ name := by
  simp only [factory?, List.find?_eq_none, beq_iff_eq, ne_eq]

end Lookup

section Runs

variable {services : Services ε} {factories : List (Factory ε)} {name : Text}

/-- A request whose name leads to a factory runs the check of that factory behind a message. -/
theorem run_found {factory : Factory ε} (found : factory? factories name = some factory)
    (event : Event) (project : Project) (state : ε)
    : let checks := (Suite.runChecks services [factory] event project).trace state
      (run services factories name event project).trace state
      = ⟨checks.value.map fun ended => ended.mapError Failure.group, checks.state,
          .did (.wrote (.info ("Check requested: " ++ factory.key))) :: checks.acts⟩ := by
  intro checks
  simp only [run, found, Attempt.trace_write_bind]
  exact congrArg (Trace.behind _)
    (Handlers.ofGroup_trace (Suite.runChecks services [factory] event project) state)

/-- A request whose name leads nowhere lists the keys of the factories, and does nothing. -/
theorem run_unknown (unknown : factory? factories name = none) (event : Event)
    (project : Project) (state : ε)
    : (run services factories name event project).trace state
      = ⟨.ok (.error (.unknownCheck name (factories.map Factory.key))), state, []⟩ := by
  rw [run, unknown]
  rfl

end Runs

variable (services : Services ε)

/-- The name of a job of the suite leads to its factory, as no other job has that name. -/
theorem factory?_suite {spec : JobSpec} (member : spec ∈ Catalog.suite services.config)
    : factory? (Suite.factories services) (Text.ofString spec.name)
      = some (Factory.ofJob services spec) := by
  have different : ((Suite.factories services).map Factory.key).Nodup :=
    Suite.suite_different services.config
  exact factory?_of_mem different (List.mem_map_of_mem member)

/-- A text that names no job of the suite leads nowhere. -/
theorem factory?_other {name : Text}
    (other : ∀ spec ∈ Catalog.suite services.config, Text.ofString spec.name ≠ name)
    : factory? (Suite.factories services) name = none :=
  factory?_eq_none_iff.mpr (List.forall_mem_map.mpr other)

/-- A request for a job of the suite runs the check of that job behind a message, and nothing else.
-/
theorem run_suite {spec : JobSpec} (member : spec ∈ Catalog.suite services.config) (event : Event)
    (project : Project) (state : ε)
    : let checks :=
        (Suite.runChecks services [Factory.ofJob services spec] event project).trace state
      (run services (Suite.factories services) (Text.ofString spec.name) event project).trace state
      = ⟨checks.value.map fun ended => ended.mapError Failure.group, checks.state,
          .did (.wrote (.info ("Check requested: " ++ spec.name))) :: checks.acts⟩ :=
  run_found (factory?_suite services member) event project state

/-- A request for anything else does nothing; the result lists the names that are known. -/
theorem run_other {name : Text}
    (other : ∀ spec ∈ Catalog.suite services.config, Text.ofString spec.name ≠ name)
    (event : Event) (project : Project) (state : ε)
    : (run services (Suite.factories services) name event project).trace state
      = ⟨.ok (.error (.unknownCheck name ((Catalog.suite services.config).map JobSpec.name))),
          state, []⟩ :=
  run_unknown (factory?_other services other) event project state

end CheckRequest

end Conductor
