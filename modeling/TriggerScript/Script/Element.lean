import TriggerScript.Report.Diagnostic
import TriggerScript.Script.Invocation

/-!
# Elements of scripts

A script is put together from elements: expressions, which have values; effects and
sections, which are its statements; and an event that decides whether it runs. An element
starts out as a blueprint, which is given the expressions inside of it and may refuse
them.
-/

namespace TriggerScript
namespace Script

variable {H : Host}

/-- The only element of a list. -/
def only? {α : Type} : List α → Option α
  | [a] => some a
  | _ => none

/-- An element that has values. Reading them may change the world, but not the run. -/
structure Expression (H : Host) where
  /-- The expression in words; the switch asks for details. -/
  describe : Bool → String
  values : Invocation H → List Value × World H
  /-- The value, if there is exactly one. -/
  single : Invocation H → Option Value × World H :=
    fun v => ((only? (values v).1), (values v).2)
  isSingle : Bool := true

/-- Which pattern of an element matched, and the mark of the match. -/
structure MatchInfo where
  pattern : Nat
  mark : UInt32

/-- A section that is open while a script is put together. -/
structure OpenSection where
  id : StatementId
  isLoop : Bool
  description : String

/-- The place in a script where an element is put. -/
structure ParserState where
  /-- The open sections, the innermost first. -/
  sections : List OpenSection

namespace ParserState

def initial : ParserState := ⟨[]⟩

def innermost?
    (s : ParserState) : Option OpenSection :=
  s.sections.head?

def innermostLoop?
    (s : ParserState) : Option OpenSection :=
  s.sections.find? OpenSection.isLoop

def depth
    (s : ParserState) : Nat :=
  s.sections.length

end ParserState

/-- What an element is told when it is put into a script. -/
structure Setting where
  types : TypeSystem
  state : ParserState
  info : MatchInfo

/-- An element that has not been given its expressions yet. -/
structure Blueprint (H : Host) (α : Type) where
  /-- What the element is without expressions. -/
  bare : α
  /-- The element with the expressions inside of it, unless it refuses them. -/
  init : List (Expression H) → Setting → Except Report.Diagnostic α

/-- What follows after an effect. -/
inductive Step where
  /-- The next statement. -/
  | next
  /-- An active section, which goes on with its next iteration if so asked. -/
  | redirect (target : StatementId) (skipToNext : Bool)
  /-- Nothing. -/
  | halt
deriving DecidableEq

/-- A statement that does something. It acts on the run through the store alone, so that
it cannot replace the active sections or run another trigger in the same invocation. -/
structure Effect (H : Host) where
  describe : Bool → String
  execute : Invocation H → Store H
  /-- Run the effect, and tell what follows. -/
  walk : Invocation H → Step × Store H :=
    fun v => (.next, execute v)

/-- How a section is reached. -/
inductive Entry where
  /-- From the statement before it. -/
  | enter
  /-- From the end of its body. -/
  | resume
  /-- From a statement in its body that asks for the next iteration. -/
  | nextIteration
deriving DecidableEq

/-- The place of a section in its script. -/
structure SectionPlace where
  id : StatementId
  /-- The first statement of its body. -/
  body : Option StatementId
  /-- What follows once the section is done. -/
  after : Option StatementId

/-- A statement with a body. Like an effect, it acts on the run through the store alone:
that it is active, and until when, follows from where the walk goes. -/
structure Section (H : Host) where
  describe : Bool → String
  isLoop : Bool := false
  /-- What follows: the body, or anything else to leave the section. -/
  walk : Invocation H → SectionPlace → Entry → Option StatementId × Store H

/-- What decides whether a script runs. -/
structure Event (H : Host) where
  describe : Bool → String
  check : Invocation H → Bool × World H

/-- A way to format a text. -/
structure Tag where
  apply : String → String

/-- A tag that has not been given its parameters yet. -/
structure TagBlueprint where
  bare : Tag
  /-- Whether the key and the parameters are accepted, and the tag after that. -/
  init : String → List String → Bool × Tag

def literal
    (values : List Value) : Expression H where
  describe := fun _ => String.intercalate ", " (values.map fun v => v.data.display)
  values := fun v => (values, v.world)
  isSingle := values.length == 1

/-- The values as an expression that takes no notice of what it is given. -/
def literalBlueprint
    (values : List Value) : Blueprint H (Expression H) where
  bare := literal values
  init := fun _ _ => .ok (literal values)

end Script
end TriggerScript
