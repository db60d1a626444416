import TriggerScript.Unicode.CodePointSet

/-!
# Encoding sets of characters as bytes

A matcher reads bytes. The encodings of the characters of an interval are given by a few
sequences of ranges of bytes: a sequence stands for all texts with one byte of each of
its ranges.
-/

namespace TriggerScript
namespace Regex

open Unicode

/-- The bytes from `first` to `last`. -/
structure ByteRange where
  first : Nat
  last : Nat
deriving DecidableEq

abbrev ByteSequence := List ByteRange

namespace ByteSequence

def encode
    (n : Nat) : List Nat :=
  let continuation (k : Nat) : Nat := 0x80 + k % 64
  if n < 0x80 then
    [n]
  else if n < 0x800 then
    [0xC0 + n / 64, continuation n]
  else if n < 0x10000 then
    [0xE0 + n / 4096, continuation (n / 64), continuation n]
  else
    [0xF0 + n / 262144, continuation (n / 4096), continuation (n / 64), continuation n]

/-- The last code points whose encodings have one, two and three bytes. -/
def lengthEnds : List Nat := [0x7F, 0x7FF, 0xFFFF]

/-- How many code points have encodings that differ in the
last byte, the last two and the last three bytes only. -/
def blockSizes : List Nat := [64, 4096, 262144]

/-- Where an interval has to be cut so that its first part lies in blocks of one size. -/
def blockEnd?
    (first last size : Nat) : Option Nat :=
  if first / size = last / size then none
  else if first % size ≠ 0 then some (first / size * size + (size - 1))
  else if last % size ≠ size - 1 then some (last / size * size - 1)
  else none

/-- The last code point of the first part of an
interval whose encodings no single sequence gives. -/
def cut?
    (first last : Nat) : Option Nat :=
  match lengthEnds.find? fun stop => first ≤ stop && stop < last with
  | some stop => some stop
  | none => if last ≤ 0x7F then none else blockSizes.findSome? fun size =>
      blockEnd? first last size

/-- The sequences for the code points from one to another. -/
def ofCodePoints
    (first last : Nat) : List ByteSequence :=
  match cut? first last with
  | some stop =>
      if _h : first ≤ stop ∧ stop < last then
        ofCodePoints first stop ++ ofCodePoints (stop + 1) last
      else
        [List.zipWith ByteRange.mk (encode first) (encode last)]
  | none => [List.zipWith ByteRange.mk (encode first) (encode last)]
termination_by last - first
decreasing_by
  all_goals omega

def ofSet
    (s : CodePointSet) : List ByteSequence :=
  s.intervals.flatMap fun i => ofCodePoints i.first i.last

end ByteSequence

end Regex
end TriggerScript
