import TriggerScript.Regex.Automaton
import TriggerScript.Regex.Dialect
import TriggerScript.Regex.Meaning
import TriggerScript.Regex.Reader

/-!
# Which regular expressions are accepted

A text is accepted if it reads as a regular expression that is not nested too deep, names
only known Unicode properties, can match nothing but whole characters, and does not grow
too large once its counted repetitions are written out.
-/

namespace TriggerScript
namespace Regex

/-- The depth to which groups, classes, repetitions and lists of parts may be nested. -/
def depthLimit : Nat := 250

mutual

/-- How deep the sets inside a set are nested. -/
def CharSet.depth : CharSet → Nat
  | .bracketed _ inner => inner.depth + 1
  | .union items => CharSet.depthOfAll items + 1
  | .combined _ left right => max left.depth right.depth + 1
  | _ => 0

def CharSet.depthOfAll : List CharSet → Nat
  | [] => 0
  | item :: items => max item.depth (CharSet.depthOfAll items)

end

mutual

/-- How deep the expressions inside an expression are nested. -/
def Expr.depth : Expr → Nat
  | .bracketed _ set => set.depth + 1
  | .repetition _ _ _ inner => inner.depth + 1
  | .group _ inner => inner.depth + 1
  | .alternation branches => Expr.depthOfAll branches + 1
  | .sequence parts => Expr.depthOfAll parts + 1
  | _ => 0

def Expr.depthOfAll : List Expr → Nat
  | [] => 0
  | e :: es => max e.depth (Expr.depthOfAll es)

end

/-- The normal form of the regular expression that a text spells, or its problem. -/
def compile
    (text : List Char) : Except Problem Normal := do
  let e ← read text
  if depthLimit < e.depth then
    throw .tooDeep
  let (normal, _) ← e.normal Mode.initial
  if normal.isTooLarge then
    throw .tooLarge
  return normal

/-- The problem of a text as a regular expression, if it has one. -/
def problem?
    (text : List Char) : Option Problem :=
  match compile text with
  | .ok _ => none
  | .error problem => some problem

/-- The dialect in which programs read their patterns. It names the problem of a text and
says nothing on where in the text it is. -/
instance dialect : Dialect where
  complaint? text := (problem? text).map Problem.text

end Regex
end TriggerScript
