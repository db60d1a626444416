/-!
# Reading integers

Integers of 64 bits are read from decimal digits with an optional sign in front.
-/

namespace TriggerScript
namespace Decimal

/-- The number that decimal digits write, of which there must be one at least. -/
def readDigits?
    (cs : List Char) : Option Nat :=
  if cs.isEmpty || !cs.all Char.isDigit then
    none
  else
    some (cs.foldl (fun n c => 10 * n + (c.toNat - '0'.toNat)) 0)

/-- The integer that digits with an optional sign write, of any size. -/
def readSigned?
    (cs : List Char) : Option Int :=
  match cs with
  | '-' :: ds => (readDigits? ds).map fun n => -(n : Int)
  | '+' :: ds => (readDigits? ds).map fun n => (n : Int)
  | ds => (readDigits? ds).map fun n => (n : Int)

def fits64
    (n : Int) : Bool :=
  Int64.minValue.toInt ≤ n && n ≤ Int64.maxValue.toInt

/-- The integer of 64 bits that a text writes. -/
def readInteger?
    (s : String) : Option Int :=
  (readSigned? s.toList).filter fits64

end Decimal
end TriggerScript
