/-
The shortest decimal that reads back as a given double. A finite double is a mantissa times a power
of two; the reals that round to it form an interval around it, ends included when the mantissa is
even. Grids of one, two, three, … digits are tried in turn, each by the two grid points next to the
value; the first grid with a point in the interval gives the digits, and of two such points the
nearer one.
-/

namespace PageTemplate

/-- A power of two. -/
def twoTo (n : Nat) : Nat := Nat.pow 2 n

/-- A power of ten. -/
def tenTo (n : Nat) : Nat := Nat.pow 10 n

/-- The decimal `digits * 10 ^ exponent`. -/
structure Decimal where
  digits : Nat
  exponent : Int
  deriving DecidableEq, Repr

/-- The finite non-negative double `mantissa * 2 ^ exponent`. `narrowBelow` marks a power of two,
whose lower neighbour is half as far away as the upper one. -/
structure Binary where
  mantissa : Nat
  exponent : Int
  narrowBelow : Bool
  deriving DecidableEq, Repr

namespace Binary

/-- The magnitude that the bits of a finite double stand for. -/
def ofBits (bits : UInt64) : Binary :=
  let exponent := ((bits >>> 52) &&& 0x7FF).toNat
  let fraction := (bits &&& 0xFFFFFFFFFFFFF).toNat
  if exponent = 0 then ⟨fraction, -1074, false⟩
  else ⟨twoTo 52 + fraction, exponent - 1075, fraction = 0 ∧ exponent > 1⟩

/-- Compares `a * 10 ^ i` with `n * 2 ^ j`, exactly. -/
def compareScaled (a : Nat) (i : Int) (n : Nat) (j : Int) : Ordering :=
  compare (a * tenTo i.toNat * twoTo (-j).toNat) (n * twoTo j.toNat * tenTo (-i).toNat)

/-- Does the decimal lie among the reals that round to this double? -/
def readsBack (x : Binary) (d : Decimal) : Bool :=
  let low := if x.narrowBelow then 4 * x.mantissa - 1 else 4 * x.mantissa - 2
  let high := 4 * x.mantissa + 2
  let endsIncluded := x.mantissa % 2 == 0
  let toLow := compareScaled d.digits d.exponent low (x.exponent - 2)
  let toHigh := compareScaled d.digits d.exponent high (x.exponent - 2)
  (toLow == .gt || (endsIncluded && toLow == .eq)) &&
    (toHigh == .lt || (endsIncluded && toHigh == .eq))

/-- The least `k` with `x < 10 ^ k`, for a positive `x`: an estimate from the binary logarithm and
the exact comparison. -/
def scale (x : Binary) : Int :=
  let estimate := ((x.mantissa.log2 : Int) + x.exponent) * 30103 / 100000
  let candidates := [estimate, estimate + 1, estimate + 2]
  (candidates.find? fun k => compareScaled 1 k x.mantissa x.exponent == .gt).getD (estimate + 3)

/-- The best point of the grid of step `10 ^ step` that reads back, if one does: of two the nearer
one, and the upper one when both are equally near. -/
def gridPoint? (x : Binary) (step : Int) : Option Decimal :=
  let numerator := x.mantissa * twoTo x.exponent.toNat * tenTo (-step).toNat
  let denominator := twoTo (-x.exponent).toNat * tenTo step.toNat
  let low := numerator / denominator
  let lower : Decimal := ⟨low, step⟩
  let upper : Decimal := ⟨low + 1, step⟩
  match x.readsBack lower, x.readsBack upper with
  | true, true => if 2 * numerator < (2 * low + 1) * denominator then some lower else some upper
  | true, false => some lower
  | false, true => some upper
  | false, false => none

/-- The exact value as a decimal. -/
def exact (x : Binary) : Decimal :=
  if 0 ≤ x.exponent then ⟨x.mantissa * twoTo x.exponent.toNat, 0⟩
  else ⟨x.mantissa * Nat.pow 5 (-x.exponent).toNat, x.exponent⟩

end Binary

/-- The same decimal without trailing zeros, of which at most `bound` are dropped. -/
def Decimal.strip : Nat → Decimal → Decimal
  | 0, d => d
  | bound + 1, d =>
    if d.digits ≠ 0 ∧ d.digits % 10 = 0 then strip bound ⟨d.digits / 10, d.exponent + 1⟩ else d

/-- The decimal of fewest digits that reads back as `x`, without trailing zeros. Seventeen digits
suffice for every double. -/
def Binary.shortest (x : Binary) : Decimal :=
  if x.mantissa = 0 then ⟨0, 0⟩
  else
    let scale := x.scale
    let found := (List.range 17).findSome? fun (n : Nat) => x.gridPoint? (scale - (n + 1))
    (found.getD x.exact).strip 17

end PageTemplate
