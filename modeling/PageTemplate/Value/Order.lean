/-
Equality and order of values. Strict equality tells an integer from a double and takes a map as a
set of entries; conditions compare numbers by value and take true and false for one and zero, but
only at the top. Numbers, strings and booleans are ordered, each among themselves.
-/
import PageTemplate.Value.Basic

namespace PageTemplate.Value

mutual

/-- Equality of kind and content; the order of the entries of a map does not count. -/
def equal : Value → Value → Bool
  | .null, .null => true
  | .bool a, .bool b => a == b
  | .int a, .int b => a == b
  | .float a, .float b => a == b
  | .str a, .str b => a == b
  | .list as, .list bs => equalItems as bs
  | .map as, .map bs => as.length == bs.length && fieldsWithin as bs
  | _, _ => false

/-- Are the items equal one by one? -/
def equalItems : List Value → List Value → Bool
  | [], [] => true
  | a :: as, b :: bs => a.equal b && equalItems as bs
  | _, _ => false

/-- Is every entry of the first map found in the second one, with an equal value? -/
def fieldsWithin : List (String × Value) → List (String × Value) → Bool
  | [], _ => true
  | (key, a) :: as, bs =>
    (match Fields.get? key bs with
      | some b => a.equal b
      | none => false) && fieldsWithin as bs

end

/-- An integer as the nearest double. -/
def toDouble (i : Int64) : Float := Float.ofInt i.toInt

/-- A boolean as a number. -/
def bit (b : Bool) : Int64 := if b then 1 else 0

/-- Equality in a condition. -/
def alike : Value → Value → Bool
  | .int a, .float b => toDouble a == b
  | .float a, .int b => toDouble b == a
  | .bool a, .int b => bit a == b
  | .int a, .bool b => bit b == a
  | a, b => a.equal b

/-- The order of two doubles, if neither is the one that is no number. -/
def compareDoubles (a b : Float) : Option Ordering :=
  if a < b then some .lt
  else if a == b then some .eq
  else if b < a then some .gt
  else none

/-- The order of two values, if they have one: numbers by value, strings by code points, false
before true. -/
def compare? : Value → Value → Option Ordering
  | .int a, .int b => some (compare a b)
  | .int a, .float b => compareDoubles (toDouble a) b
  | .float a, .int b => compareDoubles a (toDouble b)
  | .float a, .float b => compareDoubles a b
  | .str a, .str b => some (compare a b)
  | .bool a, .bool b => some (compare a b)
  | _, _ => none

end PageTemplate.Value
