import Conductor.Text.Blank

/-! Characters that a shell does not take as they are, and the quote marks that a text stands
between. Text without such characters adds none to the text that it is put into, and leaves all that
follows between the same quote marks.
-/

namespace Conductor.Shell

-----------------------------------------------------------------------------------------
-- Active characters
-----------------------------------------------------------------------------------------

/-- The characters, other than blanks, that a shell does not take as they are: they quote or expand
what follows, or separate commands.
-/
def controls : List Char := ['$', '`', '"', '\'', '\\', ';', '&', '|', '<', '>', '(', ')']

/-- Whether a character can be anything but a part of a word to a shell. -/
def isActive (c : Char) : Bool :=
  Text.isBlank c || controls.contains c

/-- The active characters of a text, in order. -/
def actives (text : List Char) : List Char :=
  text.filter isActive

/-- No character of the text is active. -/
def Inert (text : List Char) : Prop :=
  ∀ c ∈ text, isActive c = false

instance (text : List Char) : Decidable (Inert text) :=
  List.decidableBAll _ text

variable {text rest : List Char}

@[simp]
theorem inert_nil : Inert [] := nofun

@[simp]
theorem inert_cons {c : Char} : Inert (c :: text) ↔ isActive c = false ∧ Inert text :=
  List.forall_mem_cons

@[simp]
theorem inert_append : Inert (text ++ rest) ↔ Inert text ∧ Inert rest :=
  List.forall_mem_append

theorem Inert.of_subset (inert : Inert text) (part : rest ⊆ text) : Inert rest :=
  fun c member => inert c (part member)

@[simp]
theorem actives_append : actives (text ++ rest) = actives text ++ actives rest :=
  List.filter_append text rest

theorem actives_eq_nil_iff : actives text = [] ↔ Inert text := by
  simp [actives, Inert, List.filter_eq_nil_iff]

/-- Inert text between pieces adds no active character to them, by induction on the pieces. -/
theorem Inert.actives_intercalate (inert : Inert text) (pieces : List (List Char))
    : actives (text.intercalate pieces) = actives pieces.flatten := by
  induction pieces with
  | nil => rfl
  | cons piece rest ih =>
      cases rest with
      | nil => simp
      | cons next rest =>
          rw [List.intercalate_cons_cons, List.flatten_cons]
          simp only [actives_append, actives_eq_nil_iff.mpr inert, List.append_nil, ih]

/-- Between two pieces only inert text adds no active character. -/
theorem inert_of_actives_intercalate {piece next : List Char}
    (same : actives (text.intercalate [piece, next]) = actives (piece ++ next))
    : Inert text := by
  rw [List.intercalate_cons_cons, List.intercalate_singleton] at same
  simp only [actives_append, List.append_assoc, List.append_cancel_left_eq] at same
  exact actives_eq_nil_iff.mp (List.append_left_eq_self.mp same)

-----------------------------------------------------------------------------------------
-- Quote marks
-----------------------------------------------------------------------------------------

/-- The quote marks that a character stands between. -/
inductive Quoting where
  | bare
  | single
  | double
  deriving DecidableEq, Repr

namespace Quoting

/-- The quote marks behind a character. Outside quotes a mark opens them, and within them only its
like closes them. A backslash takes nothing from a mark behind it, so that this is how text without
backslashes is quoted.
-/
def step (quoting : Quoting) (c : Char) : Quoting :=
  match quoting, c with
  | .bare, '\'' => .single
  | .bare, '"' => .double
  | .single, '\'' => .bare
  | .double, '"' => .bare
  | _, _ => quoting

/-- The quote marks behind a text. -/
def after (quoting : Quoting) (text : List Char) : Quoting :=
  text.foldl step quoting

/-- The quote marks behind each of several pieces with a text between them. -/
def behindEach (text : List Char) (quoting : Quoting) : List (List Char) → List Quoting
  | [] => []
  | piece :: rest => quoting.after piece :: behindEach text ((quoting.after piece).after text) rest

variable {quoting : Quoting}

@[simp]
theorem after_nil : quoting.after [] = quoting := rfl

theorem after_append : quoting.after (text ++ rest) = (quoting.after text).after rest :=
  List.foldl_append

/-- A character that is not active is no quote mark. -/
theorem step_of_inert {c : Char} (inert : isActive c = false) : quoting.step c = quoting := by
  unfold step
  split
  case h_5 => rfl
  all_goals exact absurd inert (by decide)

/-- Inert text has no quote marks, by induction on the text. -/
theorem after_of_inert (inert : Inert text) : quoting.after text = quoting := by
  induction text with
  | nil => rfl
  | cons c text ih =>
      obtain ⟨first, others⟩ := inert_cons.mp inert
      rw [after, List.foldl_cons, step_of_inert first]
      exact ih others

/-- Inert text between pieces leaves each of them between the quote marks that it stands between
without that text, by induction on the pieces.
-/
theorem behindEach_of_inert (inert : Inert text) (pieces : List (List Char))
    : behindEach text quoting pieces = behindEach [] quoting pieces := by
  induction pieces generalizing quoting with
  | nil => rfl
  | cons piece rest ih =>
      rw [behindEach, behindEach, after_of_inert inert, ih]
      rfl

end Quoting

end Conductor.Shell
