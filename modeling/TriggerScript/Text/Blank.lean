import TriggerScript.Text.Ranges

/-!
# Blank characters

The characters of the Unicode property White_Space, and what is left of a text once the
blank characters at its ends are cut off.
-/

namespace TriggerScript
namespace Text

def blankRanges : Ranges :=
    [(0x9, 0xD), (0x20, 0x20), (0x85, 0x85), (0xA0, 0xA0), (0x1680, 0x1680),
     (0x2000, 0x200A), (0x2028, 0x2029), (0x202F, 0x202F), (0x205F, 0x205F),
     (0x3000, 0x3000)]

def isBlank
    (c : Char) : Bool :=
  blankRanges.has c

/-- The text without the blank characters in front. -/
def trimLeft
    (cs : List Char) : List Char :=
  cs.dropWhile isBlank

/-- The text without the blank characters at its end. -/
def trimRight
    (cs : List Char) : List Char :=
  (cs.reverse.dropWhile isBlank).reverse

/-- The text without the blank characters at either end. -/
def trim
    (cs : List Char) : List Char :=
  trimRight (trimLeft cs)

end Text
end TriggerScript
