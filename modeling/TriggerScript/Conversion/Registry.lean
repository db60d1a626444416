import TriggerScript.Conversion.Converter
import TriggerScript.Typing.Registry

/-!
# The registry of converters

Converters are kept in the order of their registration, at most one for each pair of
types. To convert between two types the converter for exactly that pair is preferred;
otherwise the first one is taken that accepts the source and whose results can be used as
the target.
-/

namespace TriggerScript
namespace Conversion

abbrev Registry := List Converter

namespace Registry

def between?
    (r : Registry) (source target : TypeId) : Option Converter :=
  r.find? fun c => c.connects source target

/-- Whether a converter can be used between two types. -/
def serves
    (types : Typing.Registry) (source target : TypeId) (c : Converter) : Bool :=
  types.isAssignable c.source source && types.isAssignable target c.target

/-- The converter between two types among the ones that are accepted. -/
def findWhere?
    (r : Registry) (types : Typing.Registry) (accept : Converter → Bool)
    (source target : TypeId) : Option Converter :=
  match (r.between? source target).filter accept with
  | some c => some c
  | none => r.find? fun c => accept c && serves types source target c

def find?
    (r : Registry) (types : Typing.Registry) (source target : TypeId) :
    Option Converter :=
  r.findWhere? types (fun _ => true) source target

/-- The converter between two types among the ones that serve to compare values. -/
def findForComparison?
    (r : Registry) (types : Typing.Registry) (source target : TypeId) :
    Option Converter :=
  r.findWhere? types (fun c => !c.options.noComparison) source target

/-- The value as the target type: itself if it can
be used as it is, or else converted. -/
def convert
    (r : Registry) (types : Typing.Registry) (v : Value)
    (target : TypeId) : Option Value :=
  if types.isAssignable target v.typeId then
    some v
  else
    match r.find? types v.typeId target with
    | some c => c.convert v
    | none => none

/-- Register a converter; there must be none for its pair of types. -/
def add
    (r : Registry) (types : Typing.Registry) (c : DeclaredConverter) :
    Except Typing.Refusal Registry :=
  match r.between? c.source c.target with
  | some _ => .error (.converterTaken (types.nameOf c.source) (types.nameOf c.target))
  | none => .ok (r ++ [.declared c])

def declared
    (r : Registry) : List DeclaredConverter :=
  r.filterMap Converter.declared?

/-- Whether one converter can follow another, and not just lead back. -/
def canFollow
    (types : Typing.Registry) (first second : DeclaredConverter) : Bool :=
  first.source != second.target && types.isAssignable second.source first.target

/-- Every chain of two converters that may be formed,
ordered by its first and then by its second part. -/
def chains
    (r : Registry) (types : Typing.Registry) : List Converter :=
  (r.declared.filter DeclaredConverter.chainsOnRight).flatMap fun first =>
    ((r.declared.filter DeclaredConverter.chainsOnLeft).filter
      (canFollow types first)).map fun second => .chained first second

/-- The registry with one more converter, unless there is one for its pair of types. -/
def addNew
    (r : Registry) (c : Converter) : Registry :=
  match r.between? c.source c.target with
  | some _ => r
  | none => r ++ [c]

/-- The registry with a chain for every pair of types that
has no converter but could have one through two others. -/
def withChains
    (r : Registry) (types : Typing.Registry) : Registry :=
  (r.chains types).foldl addNew r

/-- Add the missing chains, and tell how many there were. -/
def deriveChains
    (r : Registry) (types : Typing.Registry) : Nat × Registry :=
  let extended := r.withChains types
  (extended.length - r.length, extended)

end Registry

end Conversion
end TriggerScript
