import TriggerScript.Pattern.Tree

/-!
# Ranks of patterns

Of several patterns that could match a text the one with the higher rank is tried first.
The rank follows from the shape of a pattern: the more of it is fixed text, the higher. A
compound is ranked by its leading run, which goes on through optional parts and blanks
and ends with the first part that is neither. An optional part on its own has no rank.
-/

namespace TriggerScript
namespace Pattern

/-- The rank of a text, which no rank exceeds. -/
def textRank : Nat := 5

def slotRank : Nat := 2

def captureRank : Nat := 1

/-- The highest rank of a compound with a capture among its parts. -/
def captureCap : Nat := 3

namespace Tree

mutual

/-- The rank of a tree, if it has one. -/
def rank? : Tree → Option Nat
  | .text _ => some textRank
  | .optional _ => none
  | .choice alternatives => rankOfAlternatives? alternatives
  | .capture _ => some captureRank
  | .slot _ => some slotRank
  | .compound children =>
      match rankOfRun? children with
      | none => none
      | some rank => some (if children.any isCapture then min rank captureCap else rank)

def rankOfAlternatives? : List (Marked Tree) → Option Nat
  | [] => some textRank
  | ⟨_, t⟩ :: as =>
      match t.rank?, rankOfAlternatives? as with
      | some rank, some others => some (min rank others)
      | _, _ => none

/-- The lowest rank in the leading run of several trees. -/
def rankOfRun? : List Tree → Option Nat
  | [] => some textRank
  | .optional inner :: ts =>
      match inner.rank?, rankOfRun? ts with
      | some rank, some others => some (min rank others)
      | _, _ => none
  | t :: ts =>
      if t.isBlankText then
        rankOfRun? ts
      else
        t.rank?

end

end Tree

/-- Why a tree without a rank is refused. -/
def unrankableText : String :=
  "an optional group cannot be ranked on its own; wrap it in a compound pattern"

end Pattern
end TriggerScript
