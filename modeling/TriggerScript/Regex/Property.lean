import TriggerScript.Regex.Expression
import TriggerScript.Unicode.Age
import TriggerScript.Unicode.Binary
import TriggerScript.Unicode.Script

/-!
# Classes named by Unicode properties

A class such as `\p{Greek}` or `\p{gc=Lu}` names a Unicode property, or a property and
one of its values. Names are compared loosely: case, spaces, underscores, hyphens and a
leading `is` do not count.
-/

namespace TriggerScript
namespace Regex

open Unicode

namespace PropertyClass

/-- What is left of a name: its ASCII characters in
lower case, without spaces, underscores and hyphens. -/
def squeeze
    (name : List Char) : List Char :=
  (name.filter fun c => c.toNat < 128 && c != ' ' && c != '_' && c != '-').map
    Char.toLower

/-- The loose form of a name. The name `isc` is a
name of its own and not a form of `c`. -/
def loose : List Char → String
  | i :: s :: rest =>
      if i.toLower = 'i' && s.toLower = 's' then
        let squeezed := squeeze rest
        String.ofList (if squeezed = ['c'] then ['i', 's', 'c'] else squeezed)
      else
        String.ofList (squeeze (i :: s :: rest))
  | name => String.ofList (squeeze name)

/-- The members of a property, a general category or a script with a name. -/
def named?
    (name : String) : Option CodePointSet :=
  (Binary.named? name).or ((Category.named? name).or (Script.named? name))

/-- The members of the value of a property with given names. -/
def valued?
    (name value : String) : Option CodePointSet :=
  match name with
  | "generalcategory" | "gc" => Category.named? value
  | "script" | "sc" => Script.named? value
  | "scriptextensions" | "scx" => Script.extended? value
  | "age" => Age.named? value
  | "graphemeclusterbreak" | "gcb" => Segmentation.graphemes.named? value
  | "wordbreak" | "wb" => Segmentation.words.named? value
  | "sentencebreak" | "sb" => Segmentation.sentences.named? value
  | _ => none

/-- The characters that have what the class names, whether it is negated or not. -/
def members?
    (p : PropertyClass) : Option CodePointSet :=
  match p.value? with
  | some value => valued? (loose p.name) (loose value)
  | none => named? (loose p.name)

end PropertyClass

end Regex
end TriggerScript
