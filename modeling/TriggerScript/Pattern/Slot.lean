import TriggerScript.Pattern.Fault
import TriggerScript.Pattern.Tree
import TriggerScript.Text.Alphanumeric
import TriggerScript.Text.Split

/-!
# Reading slots

The body of a slot is a run of modifiers followed by type names with slashes between
them. Blanks around the body and around each name do not count.
-/

namespace TriggerScript
namespace Pattern

/-- The modifiers of a slot. -/
structure Modifiers where
  acceptance : Acceptance
  conditional : Bool
  nullable : Bool
deriving DecidableEq

def Modifiers.none : Modifiers := ⟨.both, false, false⟩

/-- What is wrong with the body of a slot. -/
inductive SlotFault where
  | emptyName
  | conflictingModifiers
  | badCharacter (c : Char) (name : String)
deriving DecidableEq

/-- The fault of a slot that takes a given range of the pattern. -/
def SlotFault.toFault
    (start stop : Nat) : SlotFault → Fault
  | .emptyName => .emptySlot start stop
  | .conflictingModifiers => .conflictingModifiers start stop
  | .badCharacter c name => .badTypeName c name start stop

/-- The modifiers in front of a text, and the text after them. -/
def readModifiers
    (m : Modifiers) : List Char → Except SlotFault (Modifiers × List Char)
  | '-' :: cs => readModifiers { m with nullable := true } cs
  | '=' :: cs => readModifiers { m with conditional := true } cs
  | '~' :: cs =>
      if m.acceptance = .literalsOnly then
        .error .conflictingModifiers
      else
        readModifiers { m with acceptance := .expressionsOnly } cs
  | '*' :: cs =>
      if m.acceptance = .expressionsOnly then
        .error .conflictingModifiers
      else
        readModifiers { m with acceptance := .literalsOnly } cs
  | cs => .ok (m, cs)

/-- Whether a character may stand in a type name. -/
def isNameChar
    (c : Char) : Bool :=
  Text.isAlphanumeric c || c == ' ' || c == '_'

/-- A type name without the blanks around it. -/
def readName
    (cs : List Char) : Except SlotFault String :=
  let name := Text.trim cs
  if name.isEmpty then
    .error .emptyName
  else
    match name.find? fun c => !isNameChar c with
    | some c => .error (.badCharacter c (String.ofList name))
    | none => .ok (String.ofList name)

/-- Several type names; the first fault counts. -/
def readNames : List (List Char) → Except SlotFault (List String)
  | [] => .ok []
  | cs :: rest =>
      match readName cs with
      | .error fault => .error fault
      | .ok name =>
          match readNames rest with
          | .error fault => .error fault
          | .ok names => .ok (name :: names)

def readSlotBody
    (body : List Char) : Except SlotFault Slot :=
  match readModifiers Modifiers.none (Text.trim body) with
  | .error fault => .error fault
  | .ok (m, rest) =>
      match readNames (Text.splitOn '/' rest) with
      | .error fault => .error fault
      | .ok names => .ok ⟨names, m.acceptance, m.conditional, m.nullable⟩

end Pattern
end TriggerScript
