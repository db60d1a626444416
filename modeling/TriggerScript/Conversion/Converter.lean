import TriggerScript.Value.Basic

/-!
# Converters

A converter turns values of one type into values of another, and may fail on some of
them. A declared converter comes with a function of its own; a chained one applies two
declared converters one after the other.
-/

namespace TriggerScript
namespace Conversion

/-- What a converter may be used for. -/
structure Options where
  /-- It must not follow another converter in a chain. -/
  noLeftChaining : Bool
  /-- It must not be followed by another converter in a chain. -/
  noRightChaining : Bool
  /-- It must not be used to compare values. -/
  noComparison : Bool
  /-- It loses information and must not be part of a chain. -/
  lossy : Bool
deriving DecidableEq

namespace Options

def none : Options := ⟨false, false, false, false⟩

/-- The options of a set of bits; bits without a meaning do not count. -/
def ofBits
    (bits : Nat) : Options :=
  ⟨bits.testBit 0, bits.testBit 1, bits.testBit 2, bits.testBit 3⟩

def bits
    (o : Options) : Nat :=
  o.noLeftChaining.toNat + 2 * o.noRightChaining.toNat + 4 * o.noComparison.toNat
    + 8 * o.lossy.toNat

end Options

/-- A converter that is not registered yet, with its types by name. -/
structure ConverterDeclaration where
  source : String
  target : String
  function : Value → Option Data
  options : Options

/-- A converter with a function of its own. -/
structure DeclaredConverter where
  source : TypeId
  target : TypeId
  function : Value → Option Data
  options : Options

namespace DeclaredConverter

/-- Convert a value; the result has the target type. -/
def convert
    (c : DeclaredConverter) (v : Value) : Option Value :=
  (c.function v).map fun data => ⟨c.target, data⟩

def chainsOnRight
    (c : DeclaredConverter) : Bool :=
  !c.options.noRightChaining && !c.options.lossy

def chainsOnLeft
    (c : DeclaredConverter) : Bool :=
  !c.options.noLeftChaining && !c.options.lossy

end DeclaredConverter

/-- A registered converter. -/
inductive Converter where
  | declared (c : DeclaredConverter)
  | chained (first second : DeclaredConverter)

namespace Converter

def source : Converter → TypeId
  | .declared c => c.source
  | .chained first _ => first.source

def target : Converter → TypeId
  | .declared c => c.target
  | .chained _ second => second.target

/-- What the converter may be used for. A chain is not chained again, and serves to
compare values if both its parts do. -/
def options : Converter → Options
  | .declared c => c.options
  | .chained first second =>
      { noLeftChaining := true
        noRightChaining := true
        noComparison := first.options.noComparison || second.options.noComparison
        lossy := false }

def isDerived : Converter → Bool
  | .declared _ => false
  | .chained _ _ => true

/-- The declared converter, if it is one. -/
def declared? : Converter → Option DeclaredConverter
  | .declared c => some c
  | .chained _ _ => none

/-- Convert a value; the result has the target type. -/
def convert : Converter → Value → Option Value
  | .declared c, v => c.convert v
  | .chained first second, v => (first.convert v).bind second.convert

/-- Whether the converter leads from one given type to another. -/
def connects
    (c : Converter) (source target : TypeId) : Bool :=
  c.source == source && c.target == target

end Converter

end Conversion
end TriggerScript
