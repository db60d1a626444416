/-!
# Binary floating point numbers of 64 bits

A number is its bit pattern: a sign, eleven bits of exponent and 52 bits of fraction.
Equality and order are those of the numbers that the patterns stand for, so that both
zeros are equal and a NaN is equal to nothing.
-/

namespace TriggerScript
namespace Decimal

/-- A floating point number, given by its bits. -/
structure Binary64 where
  bits : UInt64
deriving DecidableEq

namespace Binary64

def signWeight : Nat := 9223372036854775808

/-- The value of the lowest bit of the exponent, which is the number of fractions. -/
def exponentWeight : Nat := 4503599627370496

/-- The bits without the sign. -/
def magnitude
    (x : Binary64) : Nat :=
  x.bits.toNat % signWeight

def isNegative
    (x : Binary64) : Bool :=
  signWeight ≤ x.bits.toNat

def exponentField
    (x : Binary64) : Nat :=
  x.magnitude / exponentWeight

def fraction
    (x : Binary64) : Nat :=
  x.magnitude % exponentWeight

def isNaN
    (x : Binary64) : Bool :=
  x.exponentField == 2047 && x.fraction != 0

/-- Whether the number is one of the two infinities. -/
def isInfinite
    (x : Binary64) : Bool :=
  x.exponentField == 2047 && x.fraction == 0

/-- The significand of a finite number, as an integer. -/
def significand
    (x : Binary64) : Nat :=
  if x.exponentField = 0 then x.fraction else exponentWeight + x.fraction

/-- The power of two that a finite number's significand is multiplied with. -/
def exponent
    (x : Binary64) : Int :=
  (max x.exponentField 1 : Nat) - 1075

/-- An integer that orders the patterns as the numbers they stand for. -/
def orderKey
    (x : Binary64) : Int :=
  if x.isNegative then -(x.magnitude : Int) else x.magnitude

def same
    (x y : Binary64) : Bool :=
  !x.isNaN && !y.isNaN && x.orderKey == y.orderKey

/-- The order of two numbers, if both are numbers. -/
def compare?
    (x y : Binary64) : Option Ordering :=
  if x.isNaN || y.isNaN then none else some (compare x.orderKey y.orderKey)

/-- A positive integer divided by a power of two, to
the nearest integer and in a tie to the even one. -/
def roundShift
    (n shift : Nat) : Nat :=
  let unit := Nat.pow 2 shift
  let quotient := n / unit
  let twice := 2 * (n % unit)
  if twice > unit || (twice == unit && quotient % 2 == 1) then
    quotient + 1
  else
    quotient

/-- The bits of the number nearest to a natural number, with even significand in a tie. A
significand that is rounded up to the next power of two carries into the exponent. -/
def magnitudeOfNat
    (n : Nat) : Nat :=
  if n = 0 then
    0
  else
    let e := n.log2
    let rounded := if e ≤ 52 then n * Nat.pow 2 (52 - e) else roundShift n (e - 52)
    min ((e + 1022) * exponentWeight + rounded) (2047 * exponentWeight)

def ofInt
    (n : Int) : Binary64 :=
  let sign := if n < 0 then signWeight else 0
  ⟨UInt64.ofNat (sign + magnitudeOfNat n.natAbs)⟩

end Binary64

end Decimal
end TriggerScript
