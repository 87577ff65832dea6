/-
The text of a value, as it appears in a page.
-/
import PageTemplate.Decimal.Notation
import PageTemplate.Value.Basic

namespace PageTemplate.Value

/-- Doubles are positional from a leading digit at `10 ^ -4` to one at `10 ^ 15`. -/
def numberFormat : Notation where
  plainFrom := -4
  plainBelow := 16
  mark := 'e'
  infinity := "inf"
  notANumber := "NaN"

/-- What stands between two items. -/
def separator : Text := [',', ' ']

mutual

/-- The text of a value: nothing for null, a string as it is, lists in brackets and maps in
braces. -/
def text : Value → Text
  | .null => []
  | .bool b => (if b then "true" else "false").toList
  | .int i => (toString i.toInt).toList
  | .float x => numberFormat.write x
  | .str s => s.toList
  | .list items => '[' :: separator.intercalate (itemTexts items) ++ [']']
  | .map fields => '{' :: separator.intercalate (fieldTexts fields) ++ ['}']

/-- The texts of the items of a list. -/
def itemTexts : List Value → List Text
  | [] => []
  | item :: rest => item.text :: itemTexts rest

/-- The texts of the entries of a map: key, colon, value. -/
def fieldTexts : List (String × Value) → List Text
  | [] => []
  | (key, value) :: rest => (key.toList ++ ':' :: ' ' :: value.text) :: fieldTexts rest

end

end PageTemplate.Value
