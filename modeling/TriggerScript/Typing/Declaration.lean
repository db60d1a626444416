import TriggerScript.Text.Split
import TriggerScript.Value.Basic

/-!
# Declared types

A type is declared by its name and a pattern of its word forms, and it may come with
abilities: reading literals, displaying, changing and calculating with its values.
-/

namespace TriggerScript
namespace Typing

/-- The ways in which a script may change a value. -/
inductive ChangeMode where
  | set
  | add
  | remove
  | removeAll
  | delete
  | reset
deriving DecidableEq

namespace ChangeMode

def all : List ChangeMode := [.set, .add, .remove, .removeAll, .delete, .reset]

/-- The name of the mode, for data that names modes. -/
def name : ChangeMode → String
  | .set => "set"
  | .add => "add"
  | .remove => "remove"
  | .removeAll => "remove_all"
  | .delete => "delete"
  | .reset => "reset"

end ChangeMode

/-- How values of a type are changed. -/
structure Changer where
  accepts : ChangeMode → Bool
  /-- The changed targets, for the given other values. -/
  change : List Value → List Value → ChangeMode → List Value

/-- How values of a type are calculated with:
differences are values of the relative type. -/
structure Arithmetic where
  relativeType : String
  difference : Value → Value → Value
  add : Value → Value → Value
  subtract : Value → Value → Value

/-- What the values of a type can do. -/
structure Abilities where
  parser : Option (String → Option Data)
  display : Option (Value → String)
  changer : Option Changer
  arithmetic : Option Arithmetic

def Abilities.none : Abilities :=
  ⟨Option.none, Option.none, Option.none, Option.none⟩

/-- A type that is not registered yet. -/
structure TypeDeclaration where
  name : String
  /-- The word forms, as in `number¦s` or `cact¦us¦i`. -/
  pattern : String
  supertype : Option String
  abilities : Abilities

/-- A type with nothing but its name and its word forms. -/
def TypeDeclaration.plain
    (name pattern : String) : TypeDeclaration :=
  ⟨name, pattern, none, Abilities.none⟩

/-- The mark between the parts of a pattern of word forms. -/
def formSeparator : Char := '¦'

/-- The singular and the plural of a type. -/
structure WordForms where
  singular : String
  plural : String
deriving DecidableEq

/-- The word forms that a pattern spells: `base¦plural` or
`base¦singular¦plural`, where the endings follow the base. A pattern
without a mark is both forms, and parts after the third do not count. -/
def WordForms.ofPattern
    (pattern : String) : WordForms :=
  match Text.splitOn formSeparator pattern.toList with
  | [base, plural] =>
      ⟨String.ofList base, String.ofList (base ++ plural)⟩
  | base :: singular :: plural :: _ =>
      ⟨String.ofList (base ++ singular), String.ofList (base ++ plural)⟩
  | _ => ⟨pattern, pattern⟩

/-- A registered type. -/
structure TypeEntry where
  id : TypeId
  name : String
  forms : WordForms
  supertype : Option TypeId
  abilities : Abilities

namespace TypeEntry

def hasParser
    (t : TypeEntry) : Bool :=
  t.abilities.parser.isSome

def parse
    (t : TypeEntry) (text : String) : Option Value :=
  match t.abilities.parser with
  | some parser => (parser text).map fun data => ⟨t.id, data⟩
  | none => none

end TypeEntry

def missingText : String := "<none>"

/-- The text of a possibly missing value of a type. -/
def TypeEntry.display
    (t : TypeEntry) : Option Value → String
  | none => missingText
  | some v =>
      match t.abilities.display with
      | some display => display v
      | none => v.data.display

end Typing
end TriggerScript
