import TriggerScript.Text.Blank
import TriggerScript.Typing.Literal

/-!
# Common conversions

Functions for declared converters that depend on the data alone. Each fails on data of a
shape that it is not for.
-/

namespace TriggerScript
namespace Conversion
namespace Standard

def unchanged
    (v : Value) : Option Data :=
  some v.data

def nothing
    (_ : Value) : Option Data :=
  none

def toText
    (v : Value) : Option Data :=
  some (.text v.data.display)

/-- The data as text between parentheses, behind a tag. -/
def tagged
    (tag : String) (v : Value) : Option Data :=
  some (.text (tag ++ "(" ++ v.data.display ++ ")"))

def integerToText
    (v : Value) : Option Data :=
  v.asInteger.map fun n => .text (toString n)

/-- The integer that a text writes, whatever blanks are around it. -/
def textToInteger
    (v : Value) : Option Data :=
  v.asText.bind fun s => Typing.Literal.integer (String.ofList (Text.trim s.toList))

def truthToInteger
    (v : Value) : Option Data :=
  v.asBool.map fun b => .integer (if b then 1 else 0)

def integerToTruth
    (v : Value) : Option Data :=
  match v.asInteger with
  | some 0 => some (.boolean false)
  | some 1 => some (.boolean true)
  | _ => none

def textToTruth
    (v : Value) : Option Data :=
  v.asText.bind Typing.Literal.truth

def textLength
    (v : Value) : Option Data :=
  v.asText.map fun s => .integer s.length

def toFloat
    (v : Value) : Option Data :=
  v.asFloat.map .float

def handleToText
    (v : Value) : Option Data :=
  v.asHandle.map fun h => .text h.name

end Standard
end Conversion
end TriggerScript
