import TriggerScript.Decimal.Binary64

/-!
# Floating point numbers by their bits

The bits of a number as sixteen hexadecimal digits, for exact storage.
-/

namespace TriggerScript
namespace Decimal
namespace Binary64

/-- The bits that stand for every pattern that is not a number. -/
def canonicalNaN : UInt64 := 0x7ff8000000000000

def hexadecimal
    (x : Binary64) : String :=
  let digits := Nat.toDigits 16 (if x.isNaN then canonicalNaN else x.bits).toNat
  String.ofList (List.replicate (16 - digits.length) '0' ++ digits)

def hexDigit?
    (c : Char) : Option Nat :=
  if c.isDigit then
    some (c.toNat - '0'.toNat)
  else if 'a' ≤ c ∧ c ≤ 'f' then
    some (c.toNat - 'a'.toNat + 10)
  else
    none

/-- The number with given bits. -/
def ofHexadecimal?
    (s : String) : Option Binary64 :=
  (s.toList.foldlM (fun n c => (hexDigit? c).map fun d => 16 * n + d) 0).map fun n =>
    ⟨UInt64.ofNat n⟩

end Binary64
end Decimal
end TriggerScript
