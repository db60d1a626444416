/-!
# Sets of code points

A set of code points is a list of intervals in ascending order that do not touch each
other. Surrogates stand for no character; a complement holds none of them.
-/

namespace TriggerScript
namespace Unicode

/-- The code points from `first` to `last`. -/
structure Interval where
  first : Nat
  last : Nat
deriving DecidableEq

namespace Interval

/-- The parts of an interval before and after the surrogates. -/
def withoutSurrogates
    (i : Interval) : List Interval :=
  [⟨i.first, min i.last 0xD7FF⟩, ⟨max i.first 0xE000, i.last⟩].filter fun j =>
    j.first ≤ j.last

end Interval

/-- A set of code points. -/
structure CodePointSet where
  intervals : List Interval
deriving DecidableEq

namespace CodePointSet

/-- The set without a member. -/
def empty : CodePointSet := ⟨[]⟩

/-- An interval, joined with those of the following ones that touch it. -/
def joinFrom
    (i : Interval) : List Interval → List Interval
  | [] => [i]
  | j :: rest =>
      if j.first ≤ i.last + 1 then
        joinFrom ⟨i.first, max i.last j.last⟩ rest
      else
        i :: joinFrom j rest

def ofIntervals
    (is : List Interval) : CodePointSet :=
  match is.mergeSort fun i j => i.first ≤ j.first with
  | [] => empty
  | i :: rest => ⟨joinFrom i rest⟩

/-- The set of all code points that stand for a character. -/
def univ : CodePointSet := ⟨[⟨0, 0xD7FF⟩, ⟨0xE000, 0x10FFFF⟩]⟩

def ascii : CodePointSet := ⟨[⟨0, 0x7F⟩]⟩

/-- The set of the characters from one to another. -/
def range
    (first last : Char) : CodePointSet :=
  ⟨Interval.withoutSurrogates ⟨first.toNat, last.toNat⟩⟩

def contains
    (s : CodePointSet) (n : Nat) : Bool :=
  s.intervals.any fun i => i.first ≤ n && n ≤ i.last

def union
    (s t : CodePointSet) : CodePointSet :=
  ofIntervals (s.intervals ++ t.intervals)

/-- The intervals between those of a list, from a code point on. -/
def gapsFrom
    (start : Nat) : List Interval → List Interval
  | [] => [⟨start, 0x10FFFF⟩]
  | i :: rest => ⟨start, i.first - 1⟩ :: gapsFrom (i.last + 1) rest

def compl
    (s : CodePointSet) : CodePointSet :=
  match s.intervals with
  | ⟨0, last⟩ :: rest => ⟨(gapsFrom (last + 1) rest).flatMap Interval.withoutSurrogates⟩
  | is => ⟨(gapsFrom 0 is).flatMap Interval.withoutSurrogates⟩

def inter
    (s t : CodePointSet) : CodePointSet :=
  (s.compl.union t.compl).compl

/-- The members of the first set that are no members of the second one. -/
def diff
    (s t : CodePointSet) : CodePointSet :=
  s.inter t.compl

/-- The members of one of two sets that are no members of the other one. -/
def symmDiff
    (s t : CodePointSet) : CodePointSet :=
  (s.union t).diff (s.inter t)

/-- The set, or its complement if it is negated. -/
def complIf
    (negated : Bool) (s : CodePointSet) : CodePointSet :=
  if negated then s.compl else s

def isAscii
    (s : CodePointSet) : Bool :=
  s.intervals.all fun i => i.last ≤ 0x7F

/-- The only member of a set that has one. -/
def single?
    (s : CodePointSet) : Option Nat :=
  match s.intervals with
  | [i] => if i.first = i.last then some i.first else none
  | _ => none

end CodePointSet

end Unicode
end TriggerScript
