/-
How a double is laid out as text: the magnitudes that are written positionally, and the words for
what is not a finite number.
-/
import PageTemplate.Text.Basic
import PageTemplate.Decimal.Shortest

namespace PageTemplate

/-- The decisions of a number format. -/
structure Notation where
  /-- The least exponent of a leading digit that is written positionally. -/
  plainFrom : Int
  /-- The least exponent of a leading digit above those written positionally. -/
  plainBelow : Int
  /-- What stands between the digits and the exponent. -/
  mark : Char
  infinity : String
  notANumber : String

/-- The decimal digits of a number. -/
def digitsOf (n : Nat) : Text := Nat.toDigits 10 n

/-- A number with leading zeros up to a width. -/
def zeroPadded (width n : Nat) : Text :=
  let digits := digitsOf n
  List.replicate (width - digits.length) '0' ++ digits

/-- Digits without exponent; a whole number ends in `.0`. -/
def Decimal.plain (d : Decimal) : Text :=
  let digits := digitsOf d.digits
  let places := (-d.exponent).toNat
  if 0 ≤ d.exponent then digits ++ List.replicate d.exponent.toNat '0' ++ ['.', '0']
  else if places < digits.length then
    digits.take (digits.length - places) ++ '.' :: digits.drop (digits.length - places)
  else '0' :: '.' :: List.replicate (places - digits.length) '0' ++ digits

/-- One digit, the other digits after a point if there are any, and the exponent. -/
def Decimal.scientific (mark : Char) (d : Decimal) (exponent : Int) : Text :=
  let sign : Text := if exponent < 0 then ['-'] else []
  let mantissa :=
    match digitsOf d.digits with
    | first :: second :: more => first :: '.' :: second :: more
    | digits => digits
  mantissa ++ mark :: sign ++ digitsOf exponent.natAbs

/-- The text of a double: the fewest digits that read back, with the sign of a zero kept. -/
def Notation.write (format : Notation) (x : Float) : Text :=
  if x.isNaN then format.notANumber.toList
  else
    let sign : Text := if x.toBits >>> 63 = 1 then ['-'] else []
    if x.isInf then sign ++ format.infinity.toList
    else
      let d := (Binary.ofBits x.toBits).shortest
      let exponent := ((digitsOf d.digits).length : Int) - 1 + d.exponent
      let plain := format.plainFrom ≤ exponent ∧ exponent < format.plainBelow
      sign ++ if plain then d.plain else d.scientific format.mark exponent

end PageTemplate
