/-
The tables of a TOML document while it is read. A table is either opened by a header, or comes up
on the way to another one: in the path of a header, or in a dotted key. How it came up decides what
may be added to it later.
-/
import PageTemplate.Fields
import PageTemplate.Toml.Basic

namespace PageTemplate.Toml

/-- How a table came up. -/
inductive Origin where
  | header
  | headerPath
  | dottedKey
  deriving DecidableEq, Repr

/-- What a key of a table stands for. -/
inductive Item where
  | value (v : Toml)
  | table (origin : Origin) (entries : List (String × Item))
  | tables (elements : List (List (String × Item)))

/-- The entries of a table. -/
abbrev Items := List (String × Item)

/-- Applies a change to the last element of a list. -/
def changeLast? {α : Type} (change : α → Option α) : List α → Option (List α)
  | [] => none
  | [a] => (change a).map ([·])
  | a :: rest => (changeLast? change rest).map (a :: ·)

namespace Items

/-- Adds a value under a key that is not there yet. -/
def add? (key : String) (v : Toml) (items : Items) : Option Items :=
  match Fields.get? key items with
  | some _ => none
  | none => some (Fields.insert key (.value v) items)

/-- Adds a value under a dotted key, the last part of which is `key`. The parts before it name tables
that no header opened, and the last of them one that dotted keys alone have made. -/
def addDotted? (key : String) (v : Toml) : List String → Items → Option Items
  | [], items => add? key v items
  | step :: path, items =>
    match Fields.get? step items with
    | none =>
      (addDotted? key v path []).map fun inner =>
        Fields.insert step (.table .dottedKey inner) items
    | some (.table .dottedKey inner) =>
      (addDotted? key v path inner).map fun inner =>
        Fields.insert step (.table .dottedKey inner) items
    | some (.table .headerPath inner) =>
      if path = [] then none
      else
        (addDotted? key v path inner).map fun inner =>
          Fields.insert step (.table .headerPath inner) items
    | some (.tables elements) =>
      if path = [] then none
      else
        (changeLast? (addDotted? key v path) elements).map fun elements =>
          Fields.insert step (.tables elements) items
    | some (.table .header _) => none
    | some (.value _) => none

/-- Changes the entries of the table that the path of a header leads to. Tables that are missing are
made, and of an array of tables it is the last one. -/
def within? (change : Items → Option Items) : List String → Items → Option Items
  | [], items => change items
  | step :: path, items =>
    match Fields.get? step items with
    | none =>
      (within? change path []).map fun inner => Fields.insert step (.table .headerPath inner) items
    | some (.table origin inner) =>
      (within? change path inner).map fun inner => Fields.insert step (.table origin inner) items
    | some (.tables elements) =>
      (changeLast? (within? change path) elements).map fun elements =>
        Fields.insert step (.tables elements) items
    | some (.value _) => none

/-- Opens a table, which can have come up only in the path of a header. It goes behind all other
entries, also if it came up before them. -/
def openTable? (key : String) (items : Items) : Option Items :=
  match Fields.get? key items with
  | none => some (Fields.insert key (.table .header []) items)
  | some (.table .headerPath inner) => some (Fields.erase key items ++ [(key, .table .header inner)])
  | some _ => none

/-- Opens a further element of an array of tables. -/
def openElement? (key : String) (items : Items) : Option Items :=
  match Fields.get? key items with
  | none => some (Fields.insert key (.tables [[]]) items)
  | some (.tables elements) => some (Fields.insert key (.tables (elements ++ [[]])) items)
  | some _ => none

mutual

/-- The fields that the entries of a table make. -/
def toFields : Items → List (String × Toml)
  | [] => []
  | (key, item) :: rest => (key, itemToToml item) :: toFields rest

/-- The value that an entry stands for. -/
def itemToToml : Item → Toml
  | .value v => v
  | .table _ entries => .table (toFields entries)
  | .tables elements => .array (elementsToToml elements)

/-- The tables of an array of tables. -/
def elementsToToml : List Items → List Toml
  | [] => []
  | entries :: rest => .table (toFields entries) :: elementsToToml rest

end

end Items

end PageTemplate.Toml
