/-
The values that a page is rendered from: null, booleans, 64-bit integers, doubles, strings, lists,
and maps whose keys keep their order.
-/
import PageTemplate.Fields

namespace PageTemplate

/-- A value of page data. -/
inductive Value where
  | null
  | bool (b : Bool)
  | int (i : Int64)
  | float (x : Float)
  | str (s : String)
  | list (items : List Value)
  | map (fields : List (String × Value))

/-- The kind of a value. -/
inductive Kind where
  | null
  | bool
  | int
  | float
  | str
  | list
  | map
  deriving DecidableEq, Repr

/-- The word for a kind in messages. -/
def Kind.name : Kind → String
  | .null => "null"
  | .bool => "bool"
  | .int => "int"
  | .float => "float"
  | .str => "str"
  | .list => "list"
  | .map => "map"

/-- The greatest integer that a value can hold. -/
def maxInt : Nat := 9223372036854775807

namespace Value

def kind : Value → Kind
  | .null => .null
  | .bool _ => .bool
  | .int _ => .int
  | .float _ => .float
  | .str _ => .str
  | .list _ => .list
  | .map _ => .map

def isNull : Value → Bool
  | .null => true
  | _ => false

/-- What counts as true in a condition: all but null, false, zeros and what is empty. -/
def isTruthy : Value → Bool
  | .null => false
  | .bool b => b
  | .int i => i != 0
  | .float x => x != 0.0
  | .str s => s != ""
  | .list items => !items.isEmpty
  | .map fields => !fields.isEmpty

/-- The value of an attribute; only maps have attributes. -/
def attribute? (name : String) : Value → Option Value
  | .map fields => Fields.get? name fields
  | _ => none

/-- The number of characters, items or entries. -/
def length? : Value → Option Nat
  | .str s => some s.length
  | .list items => some items.length
  | .map fields => some fields.length
  | _ => none

def string? : Value → Option String
  | .str s => some s
  | _ => none

def items? : Value → Option (List Value)
  | .list items => some items
  | _ => none

/-- A count as a value; one that does not fit 64 signed bits becomes a double. -/
def ofNat (n : Nat) : Value :=
  if n ≤ maxInt then .int (Int64.ofNat n) else .float (Float.ofNat n)

end Value

end PageTemplate
