/-!
# Spans

A span is a half-open range of bytes of a pattern text.
-/

namespace TriggerScript
namespace Report

/-- The largest offset that a span made from a range holds. -/
def maxOffset : Nat := UInt32.size - 1

/-- A half-open range of bytes of a pattern text. -/
structure Span where
  start : Nat
  stop : Nat
deriving DecidableEq

namespace Span

def dummy : Span := ⟨0, 0⟩

/-- The span of a range of bytes; ends too large for
a span are brought down to the largest offset. -/
def ofRange
    (start stop : Nat) : Span :=
  ⟨min start maxOffset, min stop maxOffset⟩

/-- The span of the single byte at an offset. -/
def point
    (offset : Nat) : Span :=
  ofRange offset (offset + 1)

def length
    (s : Span) : Nat :=
  s.stop - s.start

def isEmpty
    (s : Span) : Bool :=
  s.stop ≤ s.start

def text
    (s : Span) : String :=
  toString s.start ++ ".." ++ toString s.stop

end Span

end Report
end TriggerScript
