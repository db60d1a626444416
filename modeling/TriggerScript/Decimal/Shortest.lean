import TriggerScript.Decimal.Binary64

/-!
# The shortest decimal of a floating point number

A floating point number is written with the fewest significant digits that read back as
the same number; of several such decimals the nearest is taken, and the upper one in a
tie. The digits are written out positionally, without an exponent. Only for inspection,
numbers that are very large or very small are written with one.
-/

namespace TriggerScript
namespace Decimal

/-- A natural number of units of a power of ten. -/
structure Scaled where
  digits : Nat
  exponent : Int

namespace Scaled

/-- The text of a decimal with that many digits after
the point, for a number given by all its digits. -/
def placePoint
    (digits : String) (places : Nat) : String :=
  let cs := digits.toList
  let padded := List.replicate (places + 1 - cs.length) '0' ++ cs
  String.ofList (padded.take (padded.length - places)) ++ "."
    ++ String.ofList (padded.drop (padded.length - places))

/-- The decimal written out, without an exponent. -/
def positional
    (d : Scaled) : String :=
  if 0 ≤ d.exponent then
    toString (d.digits * Nat.pow 10 d.exponent.toNat)
  else
    placePoint (toString d.digits) (-d.exponent).toNat

/-- The decimal written out, with at least one digit after the point. -/
def pointed
    (d : Scaled) : String :=
  if 0 ≤ d.exponent then d.positional ++ ".0" else d.positional

/-- The power of ten that the first digit stands for. -/
def leadingPower
    (d : Scaled) : Int :=
  (toString d.digits).length - 1 + d.exponent

/-- The decimal as its digits with a point after the first one, and a power of ten. -/
def scientific
    (d : Scaled) : String :=
  let mantissa :=
    match (toString d.digits).toList with
    | first :: second :: rest => String.ofList (first :: '.' :: second :: rest)
    | digits => String.ofList digits
  mantissa ++ "e" ++ toString d.leadingPower

/-- The same decimal with at most `fuel` zeros moved from the end of its digits into the
exponent. -/
def dropZeros : Nat → Scaled → Scaled
  | 0, d => d
  | fuel + 1, d =>
      if d.digits % 10 = 0 && d.digits != 0 then
        dropZeros fuel ⟨d.digits / 10, d.exponent + 1⟩
      else
        d

end Scaled

/-- A positive number `significand * 2 ^ exponent` with the interval of reals that are
nearest to it, in quarters of the unit `2 ^ exponent`. -/
structure Rounding where
  significand : Nat
  exponent : Int
  /-- How far down the interval reaches. -/
  below : Nat
  /-- How far up the interval reaches. -/
  above : Nat
  /-- Whether the ends belong to the interval. -/
  closed : Bool

namespace Rounding

/-- The interval of a finite number; right above a power of two the lower neighbour is
half as far away as the upper one. -/
def ofBinary64
    (x : Binary64) : Rounding :=
  { significand := x.significand
    exponent := x.exponent
    below := if x.fraction = 0 then 1 else 2
    above := 2
    closed := x.significand % 2 == 0 }

/-- The unit `2 ^ exponent` divided by `10 ^ k`, as numerator and denominator. -/
def unitOver
    (r : Rounding) (k : Int) : Nat × Nat :=
  (Nat.pow 2 r.exponent.toNat * Nat.pow 10 (-k).toNat,
    Nat.pow 2 (-r.exponent).toNat * Nat.pow 10 k.toNat)

/-- Whether `digits * 10 ^ k` lies in the interval. -/
def covers
    (r : Rounding) (digits : Nat) (k : Int) : Bool :=
  let u := r.unitOver k
  let point := 4 * digits * u.2
  let low := (4 * r.significand - r.below) * u.1
  let high := (4 * r.significand + r.above) * u.1
  if r.closed then low ≤ point && point ≤ high else low < point && point < high

/-- The number of digits before the point; it is
zero or negative for numbers below one tenth. -/
def magnitude
    (r : Rounding) : Int :=
  let u := r.unitOver 0
  let whole := r.significand * u.1 / u.2
  if whole = 0 then
    let zeros := (List.range 400).find? fun z => u.2 ≤ r.significand * u.1 * Nat.pow 10 z
    1 - (zeros.getD 400 : Int)
  else
    (toString whole).length

/-- The decimal in units of `10 ^ k` that the interval holds,
the nearer one if it holds both neighbours of the number. -/
def neighbour?
    (r : Rounding) (k : Int) : Option Scaled :=
  let u := r.unitOver k
  let down := r.significand * u.1 / u.2
  let rest := r.significand * u.1 % u.2
  match r.covers down k, r.covers (down + 1) k with
  | true, true => some ⟨if u.2 ≤ 2 * rest then down + 1 else down, k⟩
  | true, false => some ⟨down, k⟩
  | false, true => some ⟨down + 1, k⟩
  | false, false => none

/-- The decimal with the fewest digits in the interval. -/
def shortest
    (r : Rounding) : Scaled :=
  let top := r.magnitude
  let found := (List.range 18).findSome? fun d => r.neighbour? (top - (d + 1 : Nat))
  Scaled.dropZeros 400 (found.getD ⟨0, 0⟩)

end Rounding

namespace Binary64

/-- The shortest decimal of the size of a finite number. -/
def shortest
    (x : Binary64) : Scaled :=
  if x.significand = 0 then ⟨0, 0⟩ else (Rounding.ofBinary64 x).shortest

/-- The text of a number, given how the decimal of its size is written. -/
def textWith
    (write : Scaled → String) (x : Binary64) : String :=
  if x.isNaN then
    "NaN"
  else
    let sign := if x.isNegative then "-" else ""
    sign ++ if x.isInfinite then "inf" else write x.shortest

/-- The text of a number: the shortest decimal, written out. -/
def text
    (x : Binary64) : String :=
  x.textWith Scaled.positional

/-- The text of a number for inspection: the shortest decimal, with
a point in it. It is written out from one ten-thousandth up to below
ten to the power of sixteen, and with a power of ten beyond that. -/
def inspect
    (x : Binary64) : String :=
  x.textWith fun d =>
    if d.digits = 0 ∨ -4 ≤ d.leadingPower ∧ d.leadingPower < 16 then d.pointed
    else d.scientific

end Binary64

end Decimal
end TriggerScript
