/-
TOML documents as data: scalars, dates and times, arrays and tables.
-/
import PageTemplate.Data
import PageTemplate.Toml.Moment

namespace PageTemplate

/-- A TOML value. -/
inductive Toml where
  | string (s : String)
  | integer (i : Int64)
  | float (x : Float)
  | boolean (b : Bool)
  | moment (m : Toml.Moment)
  | array (items : List Toml)
  | table (fields : List (String × Toml))

namespace Toml

/-- The key of the one field of a date or time as page data. -/
def momentKey : String := "$__toml_private_datetime"

/-- The date or time that fields stand for, by the text of the first one. -/
def momentOf? : List (String × Toml) → Option Moment
  | (_, .string s) :: _ =>
    match Moment.read? s.toList with
    | some (m, []) => some m
    | _ => none
  | _ => none

mutual

/-- The value with a date or time in place of each table whose first field has the key of dates and
times. What the other fields of such a table hold does not matter. -/
def settled? : Toml → Option Toml
  | .array items => .array <$> settledItems? items
  | .table fields =>
    if fields.head?.map (·.1) = some momentKey then .moment <$> momentOf? fields
    else .table <$> settledFields? fields
  | v => some v

/-- The settled items of an array. -/
def settledItems? : List Toml → Option (List Toml)
  | [] => some []
  | item :: rest => do return (← settled? item) :: (← settledItems? rest)

/-- The settled fields of a table, under the same keys. -/
def settledFields? : List (String × Toml) → Option (List (String × Toml))
  | [] => some []
  | (key, v) :: rest => do return (key, ← settled? v) :: (← settledFields? rest)

end

/-- Puts an entry before the first one whose key is not smaller. -/
def placed {α : Type} (entry : String × α) : List (String × α) → List (String × α)
  | [] => [entry]
  | head :: rest => if entry.1 ≤ head.1 then entry :: head :: rest else head :: placed entry rest

mutual

/-- A TOML value as page data. The entries of a table are ordered by their keys. -/
def toData : Toml → Data
  | .string s => .str s
  | .integer i => .signed i
  | .float x => .double x
  | .boolean b => .bool b
  | .moment m => .record [(momentKey, .str (String.ofList m.text))]
  | .array items => .seq (itemData items)
  | .table fields => .record (fieldData fields)

/-- The items of an array as page data. -/
def itemData : List Toml → List Data
  | [] => []
  | item :: rest => item.toData :: itemData rest

/-- The entries of a table as page data, ordered by their keys. -/
def fieldData : List (String × Toml) → List (String × Data)
  | [] => []
  | (key, value) :: rest => placed (key, value.toData) (fieldData rest)

end

end Toml

end PageTemplate
