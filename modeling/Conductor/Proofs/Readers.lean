import Mathlib.Data.List.Infix

/-! Readers of texts. A reader gives a value, often together with the end of the text that it has
left, or it refuses the text for a reason.
-/

namespace Conductor

variable {τ ρ α β : Type} {refused : ρ → Prop} {text rest : List τ}

/-- What a reader gives satisfies `good`, and what it refuses it refuses for a reason that satisfies
`refused`.
-/
def Gives (refused : ρ → Prop) (good : α → Prop) : Except ρ α → Prop
  | .ok value => good value
  | .error reason => refused reason

namespace Gives

variable {good : α → Prop} {result : Except ρ α}

/-- Two readers in turn: the second reads what the first has given. -/
theorem bind {last : β → Prop} {after : α → Except ρ β} (given : Gives refused good result)
    (next : ∀ value, good value → Gives refused last (after value))
    : Gives refused last (result >>= after) := by
  cases result with
  | error reason => exact given
  | ok value => exact next value given

theorem weaken {more : ρ → Prop} {wide : α → Prop} (given : Gives refused good result)
    (reasons : ∀ reason, refused reason → more reason) (values : ∀ value, good value → wide value)
    : Gives more wide result := by
  cases result with
  | error reason => exact reasons reason given
  | ok value => exact values value given

end Gives

/-- What a reader of a text gives: a value with an end of the text, or a reason to refuse it. -/
abbrev Reads (refused : ρ → Prop) (text : List τ) (result : Except ρ (α × List τ)) : Prop :=
  Gives refused (·.2 <:+ text) result

namespace Reads

theorem here (value : α) : Reads refused text (.ok (value, text)) :=
  List.suffix_refl text

/-- What is read of an end of a text is read of the text. -/
theorem within {result : Except ρ (α × List τ)} (read : Reads refused rest result)
    (ends : rest <:+ text)
    : Reads refused text result :=
  Gives.weaken read (fun _ reason => reason) fun _ inner => List.IsSuffix.trans inner ends

theorem behind {result : Except ρ (α × List τ)} {first : τ} (read : Reads refused rest result)
    : Reads refused (first :: rest) result :=
  read.within (List.suffix_cons first rest)

/-- Two readers in turn: the second reads what the first has left. -/
theorem bind {first : Except ρ (α × List τ)} {after : α × List τ → Except ρ (β × List τ)}
    (read : Reads refused text first)
    (next : ∀ value rest, rest <:+ text → Reads refused rest (after (value, rest)))
    : Reads refused text (first >>= after) :=
  Gives.bind read fun found ends => (next found.1 found.2 ends).within ends

end Reads

end Conductor
