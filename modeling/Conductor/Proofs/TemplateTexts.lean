import Conductor.Config.Basic

/-! Which templates have a text for every build. A template is not tried before it is used, so that
one may be refused for every build or for some. Unless fields stand in the formats of others or ask
for attributes, a template that has a text for the empty build has one for all builds.
-/

namespace Conductor

namespace Template

-----------------------------------------------------------------------------------------
-- Results in a row
-----------------------------------------------------------------------------------------

theorem bind_eq_ok_iff {α β : Type} {first : Except Refusal α} {next : α → Except Refusal β}
    {result : β}
    : first >>= next = .ok result ↔ ∃ value, first = .ok value ∧ next value = .ok result := by
  cases first <;> simp [bind, Except.bind]

/-- Items all have results exactly if each has one, by induction on the items. -/
theorem mapM_ok_iff {α β : Type} {f : α → Except Refusal β} {items : List α}
    : (∃ results, items.mapM f = .ok results) ↔ ∀ item ∈ items, ∃ result, f item = .ok result := by
  induction items with
  | nil => simp [pure, Except.pure]
  | cons item rest ih =>
      simp only [List.mapM_cons, bind_eq_ok_iff, List.forall_mem_cons, ← ih]
      constructor
      · intro ⟨_, first, found, others, rested, _⟩
        exact ⟨⟨first, found⟩, others, rested⟩
      · intro ⟨⟨first, found⟩, others, rested⟩
        exact ⟨_, first, found, others, rested, rfl⟩

-----------------------------------------------------------------------------------------
-- Fields
-----------------------------------------------------------------------------------------

variable {attributes : Attributes}

/-- Without accesses a value stays as it is. -/
theorem access_end (value : Reached) (fuel : Nat)
    : access attributes value fuel [] = .ok value := by
  cases fuel <;> rfl

/-- The empty text has no characters that could be accessed. -/
theorem access_nil {fuel : Nat} {rest : List Char} (plain : '.' ∉ rest) {found : Reached}
    (accessed : access attributes (.text []) fuel rest = .ok found)
    : fuel = 0 ∨ rest = [] := by
  cases fuel with
  | zero => exact Or.inl rfl
  | succ fuel =>
      right
      unfold access at accessed
      split at accessed
      · contradiction
      · rfl
      · exact absurd List.mem_cons_self plain
      · split at accessed
        · cases accessed
        obtain ⟨index, _, accessed⟩ := bind_eq_ok_iff.mp accessed
        dsimp only at accessed
        split at accessed
        · cases accessed
        obtain ⟨value, stepped, _⟩ := bind_eq_ok_iff.mp accessed
        cases index <;> cases stepped
      · cases accessed

/-- Whether a character begins an access. -/
def isAccess (c : Char) : Bool :=
  c == '.' || c == '['

/-- A name has a value exactly if it starts with the name of the build and all accesses behind that
can be made; names that are numbers have none.
-/
theorem lookUp_eq_ok_iff {value name : List Char} {found : Reached}
    : lookUp attributes value name = .ok found
      ↔ name.takeWhile (!isAccess ·) = buildField.toList
        ∧ access attributes (.text value) name.length (name.dropWhile (!isAccess ·))
          = .ok found := by
  have number : numberName? buildField.toList = .ok none := by cbv
  have named : buildField.toList.isEmpty = false := by cbv
  change ((numberName? (name.takeWhile (!isAccess ·))) >>= _) = _ ↔ _
  rw [bind_eq_ok_iff]
  constructor
  · intro ⟨index, _, known⟩
    cases index with
    | some index => cases known
    | none =>
        dsimp only at known
        split at known
        · cases known
        split at known
        · cases known
        · rename_i same
          exact ⟨Classical.not_not.mp same, known⟩
  · intro ⟨same, accessed⟩
    refine ⟨none, by rw [same]; exact number, ?_⟩
    simp only [isAccess] at same accessed
    simp only [same, named, Bool.false_eq_true, if_false, ne_eq, not_true_eq_false]
    exact accessed

/-- A name without attributes that has a value for the empty build is that of the build alone, and
stands for every build.
-/
theorem lookUp_nil {name : List Char} (plain : '.' ∉ name) {found : Reached}
    (known : lookUp attributes [] name = .ok found)
    : found = .text [] ∧ ∀ value, lookUp attributes value name = .ok (.text value) := by
  obtain ⟨same, accessed⟩ := lookUp_eq_ok_iff.mp known
  have none : name.dropWhile (!isAccess ·) = [] := by
    have within := (List.dropWhile_sublist (p := (!isAccess ·)) (l := name)).subset
    rcases access_nil (fun dot => plain (within dot)) accessed with none | none
    · rw [List.length_eq_zero_iff.mp none]
      rfl
    · exact none
  rw [none, access_end] at accessed
  cases accessed
  refine ⟨rfl, fun value => lookUp_eq_ok_iff.mpr ⟨same, ?_⟩⟩
  rw [none]
  exact access_end _ _

/-- Whether a text can be converted does not depend on the text, and it is converted to a text. -/
theorem convert_of_ok {text : List Char} {converted : Reached} {conversion : Option Char}
    (known : convert (.text text) conversion = .ok converted)
    : (∃ result, converted = .text result)
      ∧ ∀ other, ∃ result, convert (.text other) conversion = .ok (.text result) := by
  rcases conversion with _ | c
  · cases known
    exact ⟨⟨_, rfl⟩, fun other => ⟨_, rfl⟩⟩
  by_cases marked : c = 's' ∨ c = 'r' ∨ c = 'a'
  · rcases marked with rfl | rfl | rfl
    all_goals
      cases known
      exact ⟨⟨_, rfl⟩, fun other => ⟨_, rfl⟩⟩
  · simp only [not_or] at marked
    simp [convert, marked] at known

/-- Whether a format can be used does not depend on the text that it is used for. -/
theorem formatText_of_ok {text formatted format : List Char}
    (known : formatText text format = .ok formatted) (other : List Char)
    : ∃ result, formatText other format = .ok result := by
  unfold formatText at known ⊢
  by_cases empty : format.isEmpty
  · exact ⟨other, by rw [if_pos empty]⟩
  rw [if_neg empty] at known ⊢
  obtain ⟨parsed, read, known⟩ := bind_eq_ok_iff.mp known
  simp only [bind_eq_ok_iff]
  split at known
  · cases known
  rename_i fits
  split at known
  · cases known
  rename_i short
  exact ⟨parsed.lay other, parsed, read, by simp only [fits, if_neg short]⟩

/-- A field that asks for no attribute, and has no others in its format, has a text for all builds
if it has one for the empty build.
-/
theorem fieldText_of_nil {field : Field} (flat : '\x7b' ∉ field.format) (plain : '.' ∉ field.name)
    {expand expand' : List Char → Except Refusal (List Char)} {text : List Char}
    (known : fieldText attributes expand [] field = .ok text) (value : List Char)
    : ∃ result, fieldText attributes expand' value field = .ok result := by
  have bare : field.format.contains '\x7b' = false := by simpa using flat
  simp only [fieldText, bare, Bool.false_eq_true, if_false, bind_eq_ok_iff] at known ⊢
  obtain ⟨found, looked, converted, conversion, format, same, formatted⟩ := known
  obtain ⟨rfl, everywhere⟩ := lookUp_nil plain looked
  obtain ⟨⟨shown, rfl⟩, always⟩ := convert_of_ok conversion
  obtain ⟨later, converts⟩ := always value
  obtain ⟨result, formatted⟩ := formatText_of_ok formatted later
  exact ⟨result, _, everywhere value, _, converts, format, same, formatted⟩

/-- A field whose name starts otherwise than that of the build has no text, for any build. -/
theorem fieldText_of_other {field : Field}
    (other : field.name.takeWhile (!isAccess ·) ≠ buildField.toList)
    (expand : List Char → Except Refusal (List Char)) (value text : List Char)
    : fieldText attributes expand value field ≠ .ok text := by
  intro known
  unfold fieldText at known
  obtain ⟨found, looked, _⟩ := bind_eq_ok_iff.mp known
  exact other (lookUp_eq_ok_iff.mp looked).1

-----------------------------------------------------------------------------------------
-- Templates
-----------------------------------------------------------------------------------------

/-- The pieces of a whole template. -/
def piecesOf (template : String) : List Piece :=
  pieces (template.toList.length + 1) template.toList

/-- No field of a template has fields in its format. -/
def Flat (template : String) : Prop :=
  ∀ field, .field field ∈ piecesOf template → '\x7b' ∉ field.format

/-- No field of a template asks for an attribute. -/
def Plain (template : String) : Prop :=
  ∀ field, .field field ∈ piecesOf template → '.' ∉ field.name

/-- The text of a piece. -/
def pieceText (attributes : Attributes) (value : List Char) (depth : Nat)
    : Piece → Except Refusal (List Char)
  | .literal text => .ok text
  | .field written => fieldText attributes (expand attributes value depth) value written
  | .broken refusal => .error refusal

/-- A template has a text for a build exactly if each of its pieces has one. -/
theorem render_ok_iff {template buildId : String}
    : (∃ text, render attributes template buildId = .ok text)
      ↔ ∀ piece ∈ piecesOf template,
          ∃ text, pieceText attributes buildId.toList 1 piece = .ok text := by
  have expanded
    : expand attributes buildId.toList maxDepth template.toList
      = (piecesOf template).mapM (pieceText attributes buildId.toList 1) >>= fun parts =>
          .ok parts.flatten := rfl
  rw [← mapM_ok_iff, render, expanded]
  cases (piecesOf template).mapM (pieceText attributes buildId.toList 1) <;>
    simp [bind, Except.bind, Except.map]

/-- A template without attributes and without fields in formats has a text for every build if it has
one for the empty build.
-/
theorem render_of_empty {template text : String} (flat : Flat template) (plain : Plain template)
    (shown : render attributes template "" = .ok text) (buildId : String)
    : ∃ result, render attributes template buildId = .ok result := by
  have each := render_ok_iff.mp ⟨text, shown⟩
  refine render_ok_iff.mpr fun piece member => ?_
  obtain ⟨part, known⟩ := each piece member
  cases piece with
  | literal text => exact ⟨text, rfl⟩
  | field written =>
      exact fieldText_of_nil (flat written member) (plain written member) known buildId.toList
  | broken refusal => cases known

/-- A template with a field of another name has no text, for any build. -/
theorem render_of_other {template : String} {field : Field}
    (member : .field field ∈ piecesOf template)
    (other : field.name.takeWhile (!isAccess ·) ≠ buildField.toList) (buildId : String)
    : ∃ refusal, render attributes template buildId = .error refusal := by
  cases rendered : render attributes template buildId with
  | error refusal => exact ⟨refusal, rfl⟩
  | ok text =>
      obtain ⟨part, known⟩ := render_ok_iff.mp ⟨text, rendered⟩ _ member
      exact (fieldText_of_other other _ _ _ known).elim

end Template

namespace Config

/-- The default template shows every build behind the same address. -/
theorem detailsUrl_default {attributes : Template.Attributes} {config : Config}
    (default : config.detailsTemplate = defaultDetailsTemplate) (buildId : String)
    : config.detailsUrl attributes buildId
      = .ok ("https://brigadecore.github.io/kashti/builds/" ++ buildId) := by
  let address := "https://brigadecore.github.io/kashti/builds/"
  have pieces
    : Template.piecesOf defaultDetailsTemplate
      = [.literal address.toList, .field ⟨Template.buildField.toList, none, []⟩, .literal []] := by
    decide +kernel
  have field
    : Template.pieceText attributes buildId.toList 1 (.field ⟨Template.buildField.toList, none, []⟩)
      = .ok buildId.toList := by
    have bare : Template.buildField.toList.dropWhile (!Template.isAccess ·) = [] := by
      decide +kernel
    have named
      : Template.lookUp attributes buildId.toList Template.buildField.toList
        = .ok (.text buildId.toList) := by
      refine Template.lookUp_eq_ok_iff.mpr ⟨by decide +kernel, ?_⟩
      rw [bare]
      exact Template.access_end _ _
    simp only [Template.pieceText, Template.fieldText, named]
    rfl
  have expanded
    : Template.expand attributes buildId.toList Template.maxDepth defaultDetailsTemplate.toList
      = .ok (address.toList ++ buildId.toList) := by
    change (Template.piecesOf defaultDetailsTemplate).mapM
      (Template.pieceText attributes buildId.toList 1) >>= _ = _
    rw [pieces]
    simp only [List.mapM_cons, List.mapM_nil, field]
    change Except.ok [address.toList, buildId.toList, []].flatten = _
    simp
  rw [detailsUrl, default, Template.render, expanded]
  change Except.ok (String.ofList (address.toList ++ buildId.toList)) = _
  rw [← String.toList_append, String.ofList_toList]

end Config

end Conductor
