/-!
# Phrasings

Some vocabulary is declared by a word or two, from which whole patterns are made: events
with their optional "on", properties of owners, and conditions in the affirmative and in
the negative.
-/

namespace TriggerScript
namespace Pattern

/-- The text after a leading star, if there is one. -/
def afterStar? (s : String) : Option String :=
  match s.toList with
  | '*' :: cs => some (String.ofList cs)
  | _ => none

/-- The pattern of an event: with an optional "on" in
front, unless a star asks for the text as it is. -/
def eventPattern
    (s : String) : String :=
  match afterStar? s with
  | some verbatim => verbatim
  | none => "[on] " ++ s

/-- The owner of a property in a pattern: a slot for
the named types, or after a star the text as it is. -/
def ownerForm
    (owner : String) : String :=
  match afterStar? owner with
  | some literal => literal
  | none => "%" ++ owner ++ "%"

/-- The two patterns of a property: behind its owner, and in front of it. -/
def propertyPatterns
    (owner property : String) : List String :=
  [ownerForm owner ++ "'[s] " ++ property,
    "[the] " ++ property ++ " of " ++ ownerForm owner]

/-- The verb of a condition. -/
inductive Verb where
  | be
  | can
  | have
deriving DecidableEq

namespace Verb

/-- The verb in the affirmative, with the blanks around it. -/
def affirmative : Verb → String
  | .be => " (is|are) "
  | .can => " can "
  | .have => " (has|have) "

/-- The verb in the negative, where every alternative has the mark one. -/
def negated : Verb → String
  | .be => " (1¦isn't|1¦is not|1¦aren't|1¦are not) "
  | .can => " (1¦can't|1¦cannot|1¦can not) "
  | .have => " (1¦doesn't|1¦does not|1¦don't|1¦do not) have "

end Verb

/-- The two patterns of a condition: in the affirmative, and in the negative. -/
def conditionPatterns
    (performer : String) (verb : Verb) (property : String) : List String :=
  [ownerForm performer ++ verb.affirmative ++ property,
    ownerForm performer ++ verb.negated ++ property]

end Pattern
end TriggerScript
