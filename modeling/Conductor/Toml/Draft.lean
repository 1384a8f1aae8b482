import Conductor.Assoc
import Conductor.Value.Basic

/-!
Tables under construction. A key names a place by the keys of the tables around it. A place that
was opened by a header is not opened by another one, and nothing is added within a value that
was given as a whole.
-/

namespace Conductor.Toml

/-- A place in a document. -/
abbrev Key := List String

/-- The table at a place changed by `change`, where tables on the way are opened as needed; none
when another value is on the way, or when `change` refuses. With `intoLists`, a list on the way
stands for its last item.
-/
def changeAt (intoLists : Bool) (change : Table String → Option (Table String))
    : Key → Table String → Option (Table String)
  | [], table => change table
  | key :: path, table =>
    let changed (inner : Table String) := changeAt intoLists change path inner
    match Table.get? table key with
    | none => (changed []).map fun inner => table.insert key (.table inner)
    | some (.table inner) => (changed inner).map fun inner => table.insert key (.table inner)
    | some (.list items) =>
      if intoLists then
        match items.getLast? with
        | some (.table inner) =>
          (changed inner).map fun inner =>
            table.insert key (.list (items.dropLast ++ [.table inner]))
        | _ => none
      else none
    | some _ => none

/-- A table with a new entry, none when the key is bound. -/
def addEntry (key : String) (value : Value String) (table : Table String)
    : Option (Table String) :=
  match Table.get? table key with
  | none => some (table.insert key value)
  | some _ => none

/-- A table with an empty table more in the list under a key. -/
def addItem (key : String) (table : Table String) : Option (Table String) :=
  match Table.get? table key with
  | none => some (table.insert key (.list [.table []]))
  | some (.list items) => some (table.insert key (.list (items ++ [.table []])))
  | some _ => none

/-- Whether a value is given as a whole. -/
def isClosed : Value String → Bool
  | .list _ => true
  | .table _ => true
  | _ => false

/-- Whether a key is one of the given keys or lies within one of them. -/
def within (places : List Key) (key : Key) : Bool :=
  places.any (·.isPrefixOf key)

/-- A document under construction: its tables, the places that headers cannot open any more,
those that are complete, and those that headers cannot open from the next header on.
-/
structure Draft where
  root : Table String := []
  opened : List Key := []
  complete : List Key := []
  pending : List Key := []

namespace Draft

def atHeader (draft : Draft) : Draft :=
  { draft with opened := draft.pending ++ draft.opened, pending := [] }

def openTable (draft : Draft) (key : Key) : Option Draft :=
  if draft.opened.contains key || within draft.complete key then none
  else
    (changeAt true some key draft.root).map fun root =>
      { draft with root, opened := key :: draft.opened }

/-- Opens the next table of the list that a header names. What was opened within the table
before it may be opened again.
-/
def openItem (draft : Draft) (key : Key) : Option Draft :=
  if within draft.complete key then none
  else
    match key.getLast? with
    | none => none
    | some last =>
      (changeAt true (addItem last) key.dropLast draft.root).map fun root =>
        let outside (place : Key) : Bool := !key.isPrefixOf place
        { draft with
          root
          opened := key :: draft.opened.filter outside
          complete := draft.complete.filter outside }

/-- The places between a table and the table that holds a key of it. -/
def between (header key : Key) : List Key :=
  (List.range (key.length - 1)).map fun i => header ++ key.take (i + 1)

/-- Binds a key of the table at `header`. -/
def bind (draft : Draft) (header key : Key) (value : Value String) : Option Draft :=
  let parent := header ++ key.dropLast
  let passed := between header key
  if passed.any draft.opened.contains || within draft.complete parent then none
  else
    match key.getLast? with
    | none => none
    | some last =>
      (changeAt true (addEntry last value) parent draft.root).map fun root =>
        { draft with
          root
          complete := if isClosed value then (header ++ key) :: draft.complete else draft.complete
          pending := passed ++ draft.pending }

end Draft

end Conductor.Toml
