/-
The numbers of a TOML document.
-/
import PageTemplate.Decimal.Numeral
import PageTemplate.Toml.Scan

namespace PageTemplate.Toml

/-- An integer of 64 bits. -/
def int64? (i : Int) : Option Int64 :=
  if -9223372036854775808 ≤ i ∧ i ≤ 9223372036854775807 then some (Int64.ofInt i) else none

def isOctalDigit (c : Char) : Bool := '0' ≤ c && c ≤ '7'

def isBinaryDigit (c : Char) : Bool := c = '0' || c = '1'

/-- An integer in digits of a base. -/
def integerOf? (base : Nat) (isDigit : Char → Bool) (text : Text) : Option (Int64 × Text) := do
  let (ds, rest) ← digits? isDigit text
  let i ← int64? (valueOf base ds)
  return (i, rest)

/-- An integer: with a base mark, or decimal with a sign. -/
def integer? : Part Int64
  | '0' :: 'x' :: rest => integerOf? 16 isHexDigit rest
  | '0' :: 'o' :: rest => integerOf? 8 isOctalDigit rest
  | '0' :: 'b' :: rest => integerOf? 2 isBinaryDigit rest
  | text => do
    let (negative, rest) := sign text
    let (ds, rest) ← decimalDigits? rest
    let n : Int := valueOf 10 ds
    let i ← int64? (if negative then -n else n)
    return (i, rest)

/-- The digits behind a point. -/
def places? : Part Text
  | '.' :: rest => digits? Char.isDigit rest
  | _ => none

/-- The exponent of a number. -/
def exponent? : Part Int
  | c :: rest =>
    if c = 'e' ∨ c = 'E' then do
      let (negative, rest) := sign rest
      let (ds, rest) ← digits? Char.isDigit rest
      let n : Int := valueOf 10 ds
      return (if negative then -n else n, rest)
    else none
  | [] => none

/-- A number with a point, an exponent, or both. One that is too large is refused. -/
def finiteFloat? (negative : Bool) (text : Text) : Option (Float × Text) := do
  let (whole, rest) ← decimalDigits? text
  let (ds, scale, rest) ←
    match places? rest with
    | some (ps, rest) =>
      match exponent? rest with
      | some (e, rest) => some (whole ++ ps, e - ps.length, rest)
      | none => some (whole ++ ps, -(ps.length : Int), rest)
    | none => (exponent? rest).map fun (e, rest) => (whole, e, rest)
  let x := (Numeral.finite negative (valueOf 10 ds) scale).toFloat
  if x == 1.0 / 0.0 then none else return (x, rest)

/-- A word for infinity or for no number. -/
def specialFloat? (negative : Bool) : Part Float
  | 'i' :: 'n' :: 'f' :: rest => some ((Numeral.infinite negative).toFloat, rest)
  | 'n' :: 'a' :: 'n' :: rest => some (Numeral.notANumber.toFloat, rest)
  | _ => none

def float? (text : Text) : Option (Float × Text) :=
  let (negative, rest) := sign text
  (finiteFloat? negative rest).or (specialFloat? negative rest)

end PageTemplate.Toml
