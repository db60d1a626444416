import TriggerScript.Pattern.Tree

/-!
# Writing patterns

A tree is written as a pattern again: texts with their special characters escaped, groups
with their marks, captures with their closing delimiter escaped, and slots with their
modifiers in a fixed order.
-/

namespace TriggerScript
namespace Pattern

/-- The mark between the number of an alternative and its text. -/
def markSeparator : Char := '¦'

/-- Whether a character of a text must be escaped. -/
def isSpecial
    (c : Char) : Bool :=
  c == '[' || c == ']' || c == '(' || c == ')' || c == '<' || c == '%' ||
    c == '|' || c == '\\'

def escapeText
    (cs : List Char) : List Char :=
  cs.flatMap fun c => if isSpecial c then ['\\', c] else [c]

/-- The body of a capture with its closing delimiter escaped. -/
def escapeCapture
    (cs : List Char) : List Char :=
  cs.flatMap fun c => if c = '>' then ['\\', c] else [c]

/-- The number of a marked alternative; the mark zero is not written. -/
def writeMark
    (mark : UInt32) : List Char :=
  if mark = 0 then [] else (Nat.repr mark.toNat).toList ++ [markSeparator]

namespace Slot

def writeModifiers
    (s : Slot) : List Char :=
  (if s.nullable then ['-'] else [])
    ++ (match s.acceptance with
        | .both => []
        | .expressionsOnly => ['~']
        | .literalsOnly => ['*'])
    ++ (if s.conditional then ['='] else [])

def write
    (s : Slot) : List Char :=
  '%' :: s.writeModifiers ++
    ((s.types.map String.toList).intersperse ['/']).flatten ++ ['%']

end Slot

namespace Tree

/-- Whether the tree is a choice that an optional group can hold without parentheses: one
of several alternatives, or a marked one. -/
def isBareChoice : Tree → Bool
  | .choice alternatives =>
      1 < alternatives.length || alternatives.any fun a => a.mark != 0
  | _ => false

mutual

def write : Tree → List Char
  | .text s => escapeText s.toList
  | .optional (.choice alternatives) =>
      if isBareChoice (.choice alternatives) then
        '[' :: writeAlternatives alternatives ++ [']']
      else
        ['[', '('] ++ writeAlternatives alternatives ++ [')', ']']
  | .optional inner => '[' :: inner.write ++ [']']
  | .choice alternatives => '(' :: writeAlternatives alternatives ++ [')']
  | .capture body => '<' :: escapeCapture body.toList ++ ['>']
  | .slot s => s.write
  | .compound children => writeAll children

def writeAlternatives : List (Marked Tree) → List Char
  | [] => []
  | [⟨mark, t⟩] => writeMark mark ++ t.write
  | ⟨mark, t⟩ :: a :: as =>
      writeMark mark ++ t.write ++ '|' :: writeAlternatives (a :: as)

def writeAll : List Tree → List Char
  | [] => []
  | t :: ts => t.write ++ writeAll ts

end

def source
    (t : Tree) : String :=
  String.ofList t.write

end Tree

end Pattern
end TriggerScript
