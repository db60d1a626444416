import TriggerScript.Catalog.Basic
import TriggerScript.Script.ControlFlow

/-!
# The core vocabulary

The vocabulary that a catalog starts with: the type of conditions, and the elements of
control flow.
-/

namespace TriggerScript
namespace Catalog

open Script

namespace Core

/-- The name of the addon of the core vocabulary. -/
def addonName : String := "quill"

/-- The priority of the jump to the next iteration, above effects that start with an
expression. -/
def continuePriority : Int := 4

/-- Read a condition; case does not matter for ASCII letters. -/
def parseBoolean
    (text : String) : Option Data :=
  let word := String.ofList (text.toList.map Char.toLower)
  if word = "true" ∨ word = "yes" then
    some (.boolean true)
  else if word = "false" ∨ word = "no" then
    some (.boolean false)
  else
    none

def displayBoolean
    (v : Value) : String :=
  match v.asBool with
  | some true => "true"
  | some false => "false"
  | none => v.data.display

def booleanType : Typing.TypeDeclaration where
  name := Registration.conditionType
  pattern := "boolean¦s"
  supertype := none
  abilities :=
    { parser := some parseBoolean
      display := some displayBoolean
      changer := none
      arithmetic := none }

variable {H : Host}

def loopElement : Element H (Section H) :=
  ⟨"quill_lang::vocabulary::SecLoop", loopBlueprint⟩

def conditionalElement : Element H (Section H) :=
  ⟨"quill_lang::vocabulary::SecConditional", conditionalBlueprint⟩

def continueElement : Element H (Effect H) :=
  ⟨"quill_lang::vocabulary::EffContinue", continueBlueprint⟩

def whetherElement : Element H (Expression H) :=
  ⟨"quill_lang::vocabulary::ExprWhether", whetherBlueprint⟩

def loopValueElement : Element H (Expression H) :=
  ⟨"quill_lang::vocabulary::ExprLoopValue", loopValueBlueprint⟩

def registration : Except RegistrationError (Registration H) := do
  let r : Registration H := Registration.empty addonName
  let r := (Draft.mk r booleanType).register
  let r := r.addSection loopElement ["loop %objects%"]
  let r := r.addSection conditionalElement ["if %=boolean%"]
  let r ← (r.newEffect continueElement ["continue"]).registerWithPriority
    continuePriority
  let r := r.addExpression whetherElement Registration.conditionType true
    ["whether %~boolean%"]
  .ok (r.addExpression loopValueElement "object" true ["[the] loop-value"])

end Core

def registerCore [Regex.Dialect] {H : Host}
    (c : Catalog H) : Except RegistrationError (List Report.Diagnostic × Catalog H) :=
  match Core.registration with
  | .error e => .error e
  | .ok r => c.register r

end Catalog
end TriggerScript
