import TriggerScript.Comparison.Comparator
import TriggerScript.Conversion.Registry

/-!
# Finding a comparator

For two types a comparator is looked for in stages: a registered one that fits as it is
or with its operands swapped; being the same value, for two values of one type; a
registered one after a conversion of one operand; after a conversion of both; and last a
conversion of one operand into the type of the other. The first stage that finds
something decides, and within a stage the comparator that was registered first.
-/

namespace TriggerScript
namespace Comparison

/-- What a search for a comparator draws on. -/
structure Sources where
  types : Typing.Registry
  converters : Conversion.Registry
  comparators : List ComparatorEntry

namespace Sources

def conversion?
    (s : Sources) (source target : TypeId) : Option Conversion.Converter :=
  s.converters.findForComparison? s.types source target

/-- Whether operands of two types fit a registered comparator in order. -/
def fits
    (s : Sources) (e : ComparatorEntry) (a b : TypeId) : Bool :=
  s.types.isAssignable e.first a && s.types.isAssignable e.second b

/-- A registered comparator, if both operands fit it in one order or the other. -/
def direct?
    (s : Sources) (a b : TypeId) (e : ComparatorEntry) : Option Comparator :=
  if s.fits e a b then
    some (.registered e)
  else if s.fits e b a then
    some (.inverse (.registered e))
  else
    none

/-- A registered comparator whose given side the first operand fits, if the second
operand can be converted for the other side. -/
def convertSecond?
    (s : Sources) (a b : TypeId) (e : ComparatorEntry) (side : Side) :
    Option Comparator :=
  if s.types.isAssignable (e.typeAt side) a then
    (s.conversion? b (e.typeAt side.other)).map fun c =>
      match side with
      | .first => .converted none (.registered e) (some c)
      | .second => .inverse (.converted (some c) (.registered e) none)
  else
    none

/-- A registered comparator whose given side the second operand fits, if the first
operand can be converted for the other side. -/
def convertFirst?
    (s : Sources) (a b : TypeId) (e : ComparatorEntry) (side : Side) :
    Option Comparator :=
  if s.types.isAssignable (e.typeAt side) b then
    (s.conversion? a (e.typeAt side.other)).map fun c =>
      match side with
      | .first => .inverse (.converted none (.registered e) (some c))
      | .second => .converted (some c) (.registered e) none
  else
    none

def single?
    (s : Sources) (a b : TypeId) (e : ComparatorEntry) : Option Comparator :=
  [Side.first, Side.second].findSome? fun side =>
    (s.convertSecond? a b e side).or (s.convertFirst? a b e side)

/-- A registered comparator after a conversion of the first operand for the given side
and of the second operand for the other side. -/
def convertBoth?
    (s : Sources) (a b : TypeId) (e : ComparatorEntry) (side : Side) :
    Option Comparator :=
  match s.conversion? a (e.typeAt side), s.conversion? b (e.typeAt side.other) with
  | some c, some d =>
      match side with
      | .first => some (.converted (some c) (.registered e) (some d))
      | .second => some (.inverse (.converted (some d) (.registered e) (some c)))
  | _, _ => none

def double?
    (s : Sources) (a b : TypeId) (e : ComparatorEntry) : Option Comparator :=
  [Side.first, Side.second].findSome? fun side => s.convertBoth? a b e side

/-- Being the same value, for one type that is not the universal one. -/
def equality?
    (a b : TypeId) : Option Comparator :=
  if a = b ∧ a ≠ TypeId.object then some .equality else none

/-- Being the same value once one operand is converted into the type of the other. -/
def convertedEquality?
    (s : Sources) (a b : TypeId) : Option Comparator :=
  if a ≠ TypeId.object ∧ b ≠ TypeId.object then
    ((s.conversion? b a).map fun c => .converted none .equality (some c)).or
      ((s.conversion? a b).map fun c => .converted (some c) .equality none)
  else
    none

def resolve
    (s : Sources) (a b : TypeId) : Option Comparator :=
  (s.comparators.findSome? (s.direct? a b)).or <|
    (equality? a b).or <|
    (s.comparators.findSome? (s.single? a b)).or <|
    (s.comparators.findSome? (s.double? a b)).or <|
    s.convertedEquality? a b

end Sources

end Comparison
end TriggerScript
