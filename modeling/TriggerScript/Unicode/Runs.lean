import TriggerScript.Unicode.CodePointSet

/-!
# Tables of code points

Tables are written as texts that hold numbers. The digits of a number have the base 32,
the most significant one first, and there are two characters for each digit: one for the
last digit of a number and one for the others.

A table of a set holds pairs of numbers, one for each interval: how many code points lie
before it since the last one, and how many follow its first one. A table of a partition
holds pairs of numbers, too, one for each run of code points with one value: their number
and the value.
-/

namespace TriggerScript
namespace Unicode

/-- The number that a character of a table stands for:
its digit, with 32 added if more digits follow. -/
def digitOf
    (c : Char) : Nat :=
  if c.isDigit then c.toNat - '0'.toNat
  else if c.isUpper then c.toNat - 'A'.toNat + 10
  else if c.isLower then c.toNat - 'a'.toNat + 36
  else if c = '*' then 62
  else 63

/-- The numbers of a table, given the part of a number that was read already. -/
def numbersFrom
    (start : Nat) : List Char → List Nat
  | [] => []
  | c :: cs =>
      let n := 32 * start + digitOf c % 32
      if digitOf c < 32 then n :: numbersFrom 0 cs else numbersFrom n cs

def numbers
    (lines : List String) : List Nat :=
  numbersFrom 0 (lines.flatMap String.toList)

namespace CodePointSet

/-- The intervals of a table, from a code point on. -/
def intervalsFrom : Nat → List Nat → List Interval
  | start, gap :: more :: rest =>
      ⟨start + gap, start + gap + more⟩ :: intervalsFrom (start + gap + more + 1) rest
  | _, _ => []

def ofTable
    (lines : List String) : CodePointSet :=
  ⟨intervalsFrom 0 (numbers lines)⟩

end CodePointSet

/-- A property that has one of several values for each code point. -/
structure Partition where
  /-- The names of the values. -/
  names : List (List String)
  runs : List String

namespace Partition

/-- The runs of a table with their values, from a code point on. -/
def runsFrom : Nat → List Nat → List (Interval × Nat)
  | start, length :: value :: rest =>
      (⟨start, start + length - 1⟩, value) :: runsFrom (start + length) rest
  | _, _ => []

def whose
    (p : Partition) (keep : Nat → Bool) : CodePointSet :=
  let runs := (runsFrom 0 (numbers p.runs)).filter fun run => keep run.2
  CodePointSet.ofIntervals (runs.flatMap fun run => run.1.withoutSurrogates)

def index?
    (p : Partition) (name : String) : Option Nat :=
  p.names.findIdx? fun names => names.contains name

/-- The code points of the values with one of the given names. -/
def codePoints
    (p : Partition) (names : List String) : CodePointSet :=
  p.whose fun i => (p.names.getD i []).any names.contains

/-- The code points of the value with a name. -/
def named?
    (p : Partition) (name : String) : Option CodePointSet :=
  (p.index? name).map fun i => p.whose (· == i)

end Partition

end Unicode
end TriggerScript
