/-!
# Sets of code points

A property of characters is given as the list of its ranges of code points, both ends
included.
-/

namespace TriggerScript
namespace Text

abbrev Ranges := List (Nat × Nat)

namespace Ranges

/-- Whether the code point of a character lies in one of the ranges. -/
def has
    (rs : Ranges) (c : Char) : Bool :=
  rs.any fun r => r.1 ≤ c.toNat && c.toNat ≤ r.2

end Ranges

end Text
end TriggerScript
