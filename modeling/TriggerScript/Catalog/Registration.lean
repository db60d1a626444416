import TriggerScript.Catalog.ContextValue
import TriggerScript.Catalog.Entry
import TriggerScript.Pattern.Phrasing

/-!
# Registrations

A registration collects the declarations of one addon before any of them is published. A
single declaration is made up as a draft, which either goes into the registration or is
abandoned.
-/

namespace TriggerScript
namespace Catalog

open Script

/-- Why a whole registration is refused. -/
inductive RegistrationError where
  /-- A priority below zero. -/
  | negativePriority (priority : Int)
  /-- A pattern without a rank, of a declaration without a priority. -/
  | unrankablePattern (element pattern : String)
deriving DecidableEq

def RegistrationError.message : RegistrationError → String
  | .negativePriority priority =>
      "priority must be non-negative, got " ++ toString priority
  | .unrankablePattern element pattern =>
      "pattern `" ++ pattern ++ "` of `" ++ element ++ "` cannot be ranked: "
        ++ Pattern.unrankableText

/-- A priority that is given explicitly. -/
def checkPriority
    (priority : Int) : Except RegistrationError Nat :=
  if priority < 0 then .error (.negativePriority priority) else .ok priority.toNat

/-- A declared element whose patterns are not compiled yet. -/
structure PendingPhrase (H : Host) (α : Type) where
  element : Element H α
  patterns : List String
  /-- The priority, if it does not follow from the patterns. -/
  priority : Option Nat

/-- A declared expression. -/
structure PendingExpression (H : Host) where
  phrase : PendingPhrase H (Expression H)
  returnType : String
  isSingle : Bool

/-- A declared event. -/
structure PendingEvent (H : Host) where
  phrase : PendingPhrase H (Event H)
  contexts : List ContextKind

/-- A declared context value, with its type by name. -/
structure PendingContextValue (H : Host) where
  context : ContextKind
  name : String
  returnType : String
  isSingle : Bool
  timeline : Timeline
  usage : Usage
  excluded : List ContextKind
  extract : H.Payload → List Data

/-- A declared tag. -/
structure PendingTag where
  name : String
  blueprint : TagBlueprint
  priority : Nat

/-- The declarations of one addon. -/
structure Registration (H : Host) where
  addon : String
  types : List Typing.TypeDeclaration
  converters : List Conversion.ConverterDeclaration
  comparators : List Comparison.ComparatorDeclaration
  expressions : List (PendingExpression H)
  effects : List (PendingPhrase H (Effect H))
  sections : List (PendingPhrase H (Section H))
  events : List (PendingEvent H)
  contextValues : List (PendingContextValue H)
  tags : List PendingTag

/-- A registration without declarations. -/
def Registration.empty {H : Host}
    (addon : String) : Registration H :=
  ⟨addon, [], [], [], [], [], [], [], [], []⟩

/-- Something that can be declared. -/
class Declarable (H : Host) (α : Type) where
  declare : Registration H → α → Registration H

section Declarables

variable {H : Host}

instance : Declarable H Typing.TypeDeclaration :=
  ⟨fun r d => { r with types := r.types ++ [d] }⟩

instance : Declarable H Conversion.ConverterDeclaration :=
  ⟨fun r d => { r with converters := r.converters ++ [d] }⟩

instance : Declarable H Comparison.ComparatorDeclaration :=
  ⟨fun r d => { r with comparators := r.comparators ++ [d] }⟩

instance : Declarable H (PendingExpression H) :=
  ⟨fun r d => { r with expressions := r.expressions ++ [d] }⟩

instance : Declarable H (PendingPhrase H (Effect H)) :=
  ⟨fun r d => { r with effects := r.effects ++ [d] }⟩

instance : Declarable H (PendingPhrase H (Section H)) :=
  ⟨fun r d => { r with sections := r.sections ++ [d] }⟩

instance : Declarable H (PendingEvent H) :=
  ⟨fun r d => { r with events := r.events ++ [d] }⟩

instance : Declarable H (PendingContextValue H) :=
  ⟨fun r d => { r with contextValues := r.contextValues ++ [d] }⟩

instance : Declarable H PendingTag :=
  ⟨fun r d => { r with tags := r.tags ++ [d] }⟩

end Declarables

/-- A declaration that is being made up, together
with the registration that it is meant for. -/
structure Draft (H : Host) (α : Type) where
  registration : Registration H
  pending : α

namespace Draft

variable {H : Host} {α : Type}

def register [Declarable H α]
    (d : Draft H α) : Registration H :=
  Declarable.declare d.registration d.pending

def abandon
    (d : Draft H α) : Registration H :=
  d.registration

def map {β : Type}
    (f : α → β) (d : Draft H α) : Draft H β :=
  ⟨d.registration, f d.pending⟩

end Draft

/-- A declaration with patterns and a priority. -/
class Phrased (α : Type) where
  addPatterns : α → List String → α
  setPriority : α → Nat → α

instance {H : Host} {α : Type} : Phrased (PendingPhrase H α) where
  addPatterns := fun p patterns => { p with patterns := p.patterns ++ patterns }
  setPriority := fun p priority => { p with priority := some priority }

instance {H : Host} : Phrased (PendingExpression H) where
  addPatterns := fun e patterns =>
    { e with phrase := Phrased.addPatterns e.phrase patterns }
  setPriority := fun e priority =>
    { e with phrase := Phrased.setPriority e.phrase priority }

/-- The patterns of events are completed by the optional "on". -/
instance {H : Host} : Phrased (PendingEvent H) where
  addPatterns := fun e patterns =>
    { e with phrase := Phrased.addPatterns e.phrase (patterns.map Pattern.eventPattern) }
  setPriority := fun e priority =>
    { e with phrase := Phrased.setPriority e.phrase priority }

namespace Draft

variable {H : Host} {α : Type}

def addPatterns [Phrased α]
    (d : Draft H α) (patterns : List String) : Draft H α :=
  d.map fun p => Phrased.addPatterns p patterns

/-- The declaration with a priority of its own, which must not be negative. -/
def withPriority [Phrased α]
    (d : Draft H α) (priority : Int) : Except RegistrationError (Draft H α) :=
  (checkPriority priority).map fun n => d.map fun p => Phrased.setPriority p n

/-- Put the declaration with a priority of its own into the registration. -/
def registerWithPriority [Phrased α] [Declarable H α]
    (d : Draft H α) (priority : Int) : Except RegistrationError (Registration H) :=
  (d.withPriority priority).map register

end Draft

namespace Registration

variable {H : Host}

def newExpression
    (r : Registration H) (e : Element H (Expression H))
    (returnType : String) (isSingle : Bool)
    (patterns : List String) : Draft H (PendingExpression H) :=
  ⟨r, ⟨e, patterns, none⟩, returnType, isSingle⟩

def addExpression
    (r : Registration H) (e : Element H (Expression H))
    (returnType : String) (isSingle : Bool)
    (patterns : List String) : Registration H :=
  (r.newExpression e returnType isSingle patterns).register

/-- A draft of an expression for a property of its
owner, which need not be a single value. -/
def newProperty
    (r : Registration H) (e : Element H (Expression H))
    (returnType owner property : String) :
    Draft H (PendingExpression H) :=
  r.newExpression e returnType false (Pattern.propertyPatterns owner property)

def conditionType : String := "boolean"

def newCondition
    (r : Registration H) (e : Element H (Expression H)) (performer : String)
    (verb : Pattern.Verb) (property : String) : Draft H (PendingExpression H) :=
  r.newExpression e conditionType true
    (Pattern.conditionPatterns performer verb property)

def newEffect
    (r : Registration H) (e : Element H (Effect H)) (patterns : List String) :
    Draft H (PendingPhrase H (Effect H)) :=
  ⟨r, e, patterns, none⟩

def addEffect
    (r : Registration H) (e : Element H (Effect H))
    (patterns : List String) : Registration H :=
  (r.newEffect e patterns).register

def newSection
    (r : Registration H) (e : Element H (Section H)) (patterns : List String) :
    Draft H (PendingPhrase H (Section H)) :=
  ⟨r, e, patterns, none⟩

def addSection
    (r : Registration H) (e : Element H (Section H))
    (patterns : List String) : Registration H :=
  (r.newSection e patterns).register

/-- Declare an element that is an expression and an effect. -/
def addExecutable
    (r : Registration H) (e : Element H (Expression H)) (f : Element H (Effect H))
    (returnType : String) (isSingle : Bool) (patterns : List String) : Registration H :=
  (r.addExpression e returnType isSingle patterns).addEffect f patterns

/-- Declare an element that is an expression and
an effect, with a priority of its own. -/
def addExecutableWithPriority
    (r : Registration H) (e : Element H (Expression H)) (f : Element H (Effect H))
    (returnType : String) (isSingle : Bool) (patterns : List String) (priority : Int) :
    Except RegistrationError (Registration H) := do
  let r ← (r.newExpression e returnType isSingle patterns).registerWithPriority priority
  (r.newEffect f patterns).registerWithPriority priority

def newEvent
    (r : Registration H) (e : Element H (Event H)) (patterns : List String) :
    Draft H (PendingEvent H) :=
  (Draft.mk r ⟨⟨e, [], none⟩, []⟩).addPatterns patterns

/-- A draft of a context value. A star in front of the name lets the bare name be
written, too, and is not part of it. -/
def newContextValue
    (r : Registration H) (context : ContextKind) (name returnType : String)
    (extract : H.Payload → List Data) : Draft H (PendingContextValue H) :=
  { registration := r
    pending :=
      { context := context
        name := Text.lower ((Pattern.afterStar? name).getD name)
        returnType := returnType
        isSingle := true
        timeline := .present
        usage := if (Pattern.afterStar? name).isSome then .both else .expressionOnly
        excluded := []
        extract := extract } }

def newType
    (r : Registration H) (name pattern : String) : Draft H Typing.TypeDeclaration :=
  ⟨r, Typing.TypeDeclaration.plain name pattern⟩

def addConverter
    (r : Registration H) (d : Conversion.ConverterDeclaration) : Registration H :=
  Declarable.declare r d

def addComparator
    (r : Registration H) (d : Comparison.ComparatorDeclaration) : Registration H :=
  Declarable.declare r d

def addTag
    (r : Registration H) (name : String) (blueprint : TagBlueprint) : Registration H :=
  Declarable.declare r (PendingTag.mk name blueprint Pattern.textRank)

/-- Declare a tag with a priority of its own. -/
def addTagWithPriority
    (r : Registration H) (name : String) (blueprint : TagBlueprint) (priority : Int) :
    Except RegistrationError (Registration H) :=
  (checkPriority priority).map fun n =>
    Declarable.declare r (PendingTag.mk name blueprint n)

end Registration

namespace EventDraft

variable {H : Host}

/-- The event with more kinds of contexts, each of them once. -/
def handling
    (d : Draft H (PendingEvent H)) (contexts : List ContextKind) :
    Draft H (PendingEvent H) :=
  d.map fun e =>
    { e with
      contexts := contexts.foldl
        (fun known kind => if known.contains kind then known else known ++ [kind])
        e.contexts }

/-- Declare a context value of a kind that the event then handles. The value is declared
even if the event itself is given up later. -/
def withContextValue
    (d : Draft H (PendingEvent H)) (context : ContextKind) (name returnType : String)
    (extract : H.Payload → List Data) : Draft H (PendingEvent H) :=
  let d := handling d [context]
  { d with
    registration :=
      (d.registration.newContextValue context name returnType extract).register }

end EventDraft

end Catalog
end TriggerScript
