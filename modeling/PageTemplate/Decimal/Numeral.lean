/-
Numbers read from text: an optional sign, then digits with at most one point and an optional
exponent, or a word for infinity or for no number, in any case.
-/
import PageTemplate.Text.Basic

namespace PageTemplate

/-- What a numeral stands for, before it is rounded to a machine format. -/
inductive Numeral where
  | finite (negative : Bool) (digits : Nat) (exponent : Int)
  | infinite (negative : Bool)
  | notANumber
  deriving DecidableEq, Repr

namespace Numeral

/-- The value of a run of decimal digits. -/
def ofDigits (digits : Text) : Nat :=
  digits.foldl (fun n c => 10 * n + (c.toNat - '0'.toNat)) 0

/-- The exponent part of a numeral, which is empty or a mark, a sign and digits. -/
def exponent? : Text → Option Int
  | [] => some 0
  | mark :: rest =>
    if mark = 'e' ∨ mark = 'E' then
      let (negative, digits) :=
        match rest with
        | '-' :: digits => (true, digits)
        | '+' :: digits => (false, digits)
        | digits => (false, digits)
      if digits ≠ [] ∧ digits.all Char.isDigit then
        some (if negative then -(ofDigits digits : Int) else ofDigits digits)
      else none
    else none

/-- A numeral without its sign. -/
def unsigned? (negative : Bool) (text : Text) : Option Numeral :=
  match String.ofList (text.map Char.toLower) with
  | "inf" | "infinity" => some (.infinite negative)
  | "nan" => some .notANumber
  | _ =>
    let whole := text.takeWhile Char.isDigit
    let rest := text.dropWhile Char.isDigit
    let (places, rest) :=
      match rest with
      | '.' :: rest => (rest.takeWhile Char.isDigit, rest.dropWhile Char.isDigit)
      | rest => ([], rest)
    if whole = [] ∧ places = [] then none
    else
      (exponent? rest).map fun exponent =>
        .finite negative (ofDigits (whole ++ places)) (exponent - places.length)

/-- The numeral that the whole text is, if it is one. -/
def read? : Text → Option Numeral
  | '+' :: text => unsigned? false text
  | '-' :: text => unsigned? true text
  | text => unsigned? false text

/-- An exponent brought near enough to zero that the number is rounded in a moment; beyond these
bounds it is zero or infinite in every machine format anyway. -/
def nearExponent (digits : Nat) (exponent : Int) : Int :=
  let size : Int := (Nat.toDigits 10 digits).length
  max (-400 - size) (min 400 exponent)

/-- The nearest double. -/
def toFloat : Numeral → Float
  | .finite negative digits exponent =>
    let exponent := nearExponent digits exponent
    let x := Float.ofScientific digits (exponent < 0) exponent.natAbs
    if negative then -x else x
  | .infinite negative => if negative then -(1.0 / 0.0) else 1.0 / 0.0
  | .notANumber => 0.0 / 0.0

/-- The nearest single-precision number. -/
def toFloat32 : Numeral → Float32
  | .finite negative digits exponent =>
    let exponent := nearExponent digits exponent
    let x := Float32.ofScientific digits (exponent < 0) exponent.natAbs
    if negative then -x else x
  | .infinite negative => if negative then -(1.0 / 0.0) else 1.0 / 0.0
  | .notANumber => 0.0 / 0.0

end Numeral

end PageTemplate
