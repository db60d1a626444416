import TriggerScript.Decimal.Integer
import TriggerScript.Value.Basic

/-!
# Common literals

Ways to read literals and to display values that types of all kinds can use.
-/

namespace TriggerScript
namespace Typing
namespace Literal

def integer
    (s : String) : Option Data :=
  (Decimal.readInteger? s).map .integer

/-- An integer without a sign. -/
def digits
    (s : String) : Option Data :=
  if s.toList.all Char.isDigit then integer s else none

def truth
    (s : String) : Option Data :=
  if s = "true" then
    some (.boolean true)
  else if s = "false" then
    some (.boolean false)
  else
    none

def text
    (s : String) : Option Data :=
  some (.text s)

def nothing
    (_ : String) : Option Data :=
  none

end Literal

namespace Display

/-- The data of a value after a number sign. -/
def numbered
    (v : Value) : String :=
  "#" ++ v.data.display

def quoted
    (v : Value) : String :=
  "\"" ++ v.asText.getD "" ++ "\""

def fixed
    (words : String) (_ : Value) : String :=
  words

end Display
end Typing
end TriggerScript
