import TriggerScript.Report.Diagnostic

/-!
# Refused declarations

A declaration of a type, a converter or a comparator can be refused for one of a few
reasons. Each of them has a diagnostic; the declaration is then dropped, and nothing else
changes.
-/

namespace TriggerScript
namespace Typing

/-- What a declaration needs a type for. -/
inductive Role where
  | converterSource
  | converterTarget
  | comparator

/-- The role as it is named in a diagnostic. -/
def Role.name : Role → String
  | .converterSource => "converter source"
  | .converterTarget => "converter destination"
  | .comparator => "comparator"

/-- Why a declaration is refused. -/
inductive Refusal where
  /-- The name of the type is already in use. -/
  | nameTaken (name : String)
  /-- The supertype of the named type does not exist. -/
  | unknownSupertype (supertype name : String)
  /-- A type that the declaration needs does not exist. -/
  | unknownType (role : Role) (name : String)
  /-- There is a converter between the two types. -/
  | converterTaken (source target : String)
  /-- The comparator would be for any two values. -/
  | universalComparator
  /-- There is a comparator between the two types. -/
  | comparatorTaken (first second : String)

def Refusal.diagnostic : Refusal → Report.Diagnostic
  | .nameTaken name =>
      (Report.Diagnostic.error .duplicateType).withMessage
        ("type `" ++ name ++ "` is already registered")
  | .unknownSupertype supertype name =>
      (Report.Diagnostic.error .unknownType).withMessage
        ("supertype `" ++ supertype ++ "` of type `" ++ name ++ "` is not registered")
  | .unknownType role name =>
      (Report.Diagnostic.error .unknownType).withMessage
        (role.name ++ " type `" ++ name ++ "` is not registered")
  | .converterTaken source target =>
      (Report.Diagnostic.error .duplicateConverter).withMessage
        ("a converter from `" ++ source ++ "` to `" ++ target ++
          "` is already registered")
  | .universalComparator =>
      (Report.Diagnostic.error .universalComparator).withMessage
        "a comparator between two `object`s would shadow every other comparator"
  | .comparatorTaken first second =>
      (Report.Diagnostic.error .duplicateComparator).withMessage
        ("a comparator between `" ++ first ++ "` and `" ++ second ++
          "` is already registered")

end Typing
end TriggerScript
