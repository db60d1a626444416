import TriggerScript.Comparison.Relation
import TriggerScript.Conversion.Converter

/-!
# Comparators

A declared comparator relates values of two types by a function of its own. From it
others are built: the same with the operands swapped, or with one or both operands
converted first.
-/

namespace TriggerScript
namespace Comparison

/-- One of the two operands. -/
inductive Side where
  | first
  | second
deriving DecidableEq

def Side.other : Side → Side
  | .first => .second
  | .second => .first

/-- A comparator that is not registered yet, with its types by name. -/
structure ComparatorDeclaration where
  first : String
  second : String
  function : Value → Value → Relation
  supportsOrdering : Bool

/-- A registered comparator. -/
structure ComparatorEntry where
  first : TypeId
  second : TypeId
  function : Value → Value → Relation
  supportsOrdering : Bool

def ComparatorEntry.typeAt
    (e : ComparatorEntry) : Side → TypeId
  | .first => e.first
  | .second => e.second

/-- A way to compare values of two types. -/
inductive Comparator where
  /-- A registered comparator, as it is. -/
  | registered (e : ComparatorEntry)
  /-- Being the same value. -/
  | equality
  /-- Another comparator with its operands swapped. -/
  | inverse (base : Comparator)
  /-- Another comparator after a conversion of one or both operands. -/
  | converted
      (first : Option Conversion.Converter) (base : Comparator)
      (second : Option Conversion.Converter)

/-- An operand after a conversion that it may need. -/
def convertOperand
    (c : Option Conversion.Converter) (v : Value) : Option Value :=
  match c with
  | some c => c.convert v
  | none => some v

namespace Comparator

/-- Compare two values. Operands that cannot be converted are not equal. -/
def apply : Comparator → Value → Value → Relation
  | .registered e, a, b => e.function a b
  | .equality, a, b => Relation.ofBool (a.same b)
  | .inverse base, a, b => (base.apply b a).inverse
  | .converted first base second, a, b =>
      match convertOperand first a, convertOperand second b with
      | some a, some b => base.apply a b
      | _, _ => .notEqual

def supportsOrdering : Comparator → Bool
  | .registered e => e.supportsOrdering
  | .equality => false
  | .inverse base => base.supportsOrdering
  | .converted _ base _ => base.supportsOrdering

def conversionCount : Comparator → Nat
  | .registered _ => 0
  | .equality => 0
  | .inverse base => base.conversionCount
  | .converted first base second =>
      first.isSome.toNat + second.isSome.toNat + base.conversionCount

/-- Whether the comparator is anything but a registered one as it is. -/
def isDerived : Comparator → Bool
  | .registered _ => false
  | _ => true

end Comparator

end Comparison
end TriggerScript
