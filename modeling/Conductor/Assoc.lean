/-!
Association lists. A key is bound once, at the place of its first binding, to the value of its
last one.
-/

namespace Conductor

/-- An association list from `α` to `β`. -/
abbrev Assoc (α β : Type) := List (α × β)

namespace Assoc

variable {α β : Type} [BEq α]

/-- The list with `key` bound to `value`; a key that was bound keeps its place. -/
def insert : Assoc α β → α → β → Assoc α β
  | [], key, value => [(key, value)]
  | (k, v) :: rest, key, value =>
    if k == key then (k, value) :: rest else (k, v) :: insert rest key value

/-- A list of bindings added to an association list in their order. -/
def insertAll (start : Assoc α β) (bindings : List (α × β)) : Assoc α β :=
  bindings.foldl (fun list (key, value) => insert list key value) start

def ofBindings (bindings : List (α × β)) : Assoc α β :=
  insertAll [] bindings

end Assoc

end Conductor
