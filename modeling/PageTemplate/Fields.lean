/-
Named entries in order. Writing to a name that is present changes the value in its place; a new
name goes to the end; erasing keeps the order of the rest.
-/

namespace PageTemplate

/-- Entries by name, in the order in which the names first came. -/
abbrev Fields (α : Type) := List (String × α)

namespace Fields

variable {α : Type}

/-- The value under a name. -/
def get? (name : String) : Fields α → Option α
  | [] => none
  | (n, value) :: rest => if n = name then some value else get? name rest

/-- Writes the value under a name. -/
def insert (name : String) (value : α) : Fields α → Fields α
  | [] => [(name, value)]
  | (n, old) :: rest => if n = name then (n, value) :: rest else (n, old) :: insert name value rest

/-- Takes the entry of a name out. -/
def erase (name : String) : Fields α → Fields α
  | [] => []
  | (n, value) :: rest => if n = name then rest else (n, value) :: erase name rest

/-- Writes the value under a name and gives back the value in whose place it comes. -/
def replace (name : String) (value : α) : Fields α → Option α × Fields α
  | [] => (none, [(name, value)])
  | (n, old) :: rest =>
    if n = name then (some old, (n, value) :: rest)
    else
      let (replaced, rest) := replace name value rest
      (replaced, (n, old) :: rest)

/-- Takes the entry of a name out and gives back its value. -/
def take (name : String) : Fields α → Option α × Fields α
  | [] => (none, [])
  | (n, value) :: rest =>
    if n = name then (some value, rest)
    else
      let (taken, rest) := take name rest
      (taken, (n, value) :: rest)

/-- The names, in order. -/
def names (fields : Fields α) : List String := fields.map (·.1)

/-- Writes every entry of `other`, in order. -/
def update (fields other : Fields α) : Fields α :=
  other.foldl (fun fields (name, value) => fields.insert name value) fields

/-- The entries written one after the other. -/
def ofList (entries : List (String × α)) : Fields α := update [] entries

end Fields

end PageTemplate
