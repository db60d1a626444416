import TriggerScript.Regex.Expression
import TriggerScript.Text.Bytes
import TriggerScript.Unicode.CodePointSet

/-!
# Normal forms of regular expressions

In its normal form an expression has lost how it was written: switches have been applied,
classes are sets of characters, and parts that can be put together are put together. The
functions here build a normal form from normal forms of the parts.
-/

namespace TriggerScript
namespace Regex

open Unicode

/-- A condition on a place in the text, with the switches applied. -/
inductive Look where
  | textStart
  | textEnd
  | lineStart (carriageReturn : Bool)
  | lineEnd (carriageReturn : Bool)
  | boundary (kind : Boundary) (unicode : Bool)
deriving DecidableEq

/-- A regular expression in normal form. -/
inductive Normal where
  /-- What matches the empty text. -/
  | empty
  | literal (text : List Char)
  /-- One of several characters, which may be meant as bytes. -/
  | set (asBytes : Bool) (members : CodePointSet)
  | look (condition : Look)
  | repetition (low : Nat) (high : Option Nat) (greedy : Bool) (inner : Normal)
  | capture (inner : Normal)
  | sequence (parts : List Normal)
  | alternation (branches : List Normal)

namespace Normal

def fail : Normal := .set true CodePointSet.empty

/-- How many bytes the encoding of a code point has. -/
def encodedLength
    (n : Nat) : Nat :=
  if n < 0x80 then 1 else if n < 0x800 then 2 else if n < 0x10000 then 3 else 4

mutual

/-- How many bytes a match has at least, if there can be one. -/
def minLength? : Normal → Option Nat
  | .empty => some 0
  | .literal text => some (Text.byteLength text)
  | .set _ members => members.intervals.head?.map fun i => encodedLength i.first
  | .look _ => some 0
  | .repetition low _ _ inner => inner.minLength?.map (low * ·)
  | .capture inner => inner.minLength?
  | .sequence parts => minLengthOfSequence? parts
  | .alternation branches => minLengthOfAlternation? branches

/-- The sum of the least lengths, if there are all of them. -/
def minLengthOfSequence? : List Normal → Option Nat
  | [] => some 0
  | part :: parts =>
      match part.minLength?, minLengthOfSequence? parts with
      | some m, some n => some (m + n)
      | _, _ => none

/-- The minimum of the least lengths, if there are all of them. -/
def minLengthOfAlternation? : List Normal → Option Nat
  | [] => none
  | [branch] => branch.minLength?
  | branch :: branches =>
      match branch.minLength?, minLengthOfAlternation? branches with
      | some m, some n => some (min m n)
      | _, _ => none

end

mutual

/-- How many bytes a match has at most, if there is a bound. -/
def maxLength? : Normal → Option Nat
  | .empty => some 0
  | .literal text => some (Text.byteLength text)
  | .set _ members => members.intervals.getLast?.map fun i => encodedLength i.last
  | .look _ => some 0
  | .repetition _ high _ inner =>
      match high, inner.maxLength? with
      | some n, some m => some (m * n)
      | _, _ => none
  | .capture inner => inner.maxLength?
  | .sequence parts => maxLengthOfSequence? parts
  | .alternation branches => maxLengthOfAlternation? branches

/-- The sum of the greatest lengths, if there are all of them. -/
def maxLengthOfSequence? : List Normal → Option Nat
  | [] => some 0
  | part :: parts =>
      match part.maxLength?, maxLengthOfSequence? parts with
      | some m, some n => some (m + n)
      | _, _ => none

/-- The maximum of the greatest lengths, if there are all of them. -/
def maxLengthOfAlternation? : List Normal → Option Nat
  | [] => none
  | [branch] => branch.maxLength?
  | branch :: branches =>
      match branch.maxLength?, maxLengthOfAlternation? branches with
      | some m, some n => some (max m n)
      | _, _ => none

end

mutual

/-- Whether two normal forms are the same. Two captures
are at different places, so that they never are. -/
def same : Normal → Normal → Bool
  | .empty, .empty => true
  | .literal s, .literal t => s == t
  | .set b s, .set c t => b == c && s == t
  | .look l, .look m => l == m
  | .repetition low high greedy e, .repetition low' high' greedy' f =>
      low == low' && high == high' && greedy == greedy' && e.same f
  | .sequence es, .sequence fs => sameAll es fs
  | .alternation es, .alternation fs => sameAll es fs
  | _, _ => false

def sameAll : List Normal → List Normal → Bool
  | [], [] => true
  | e :: es, f :: fs => e.same f && sameAll es fs
  | _, _ => false

end

/-- One character of a set. A set with one member is a literal. -/
def ofSet
    (asBytes : Bool) (members : CodePointSet) : Normal :=
  if members.intervals.isEmpty then
    fail
  else
    match members.single? with
    | some n => .literal [Char.ofNat n]
    | none => .set asBytes members

/-- An expression some number of times. Repeating
what matches the empty text only is of no use. -/
def repeated
    (low : Nat) (high : Option Nat) (greedy : Bool) (inner : Normal) : Normal :=
  let (low, high) :=
    if inner.maxLength? = some 0 then (min low 1, some (min (high.getD 1) 1))
    else (low, high)
  if low = 0 ∧ high = some 0 then .empty
  else if low = 1 ∧ high = some 1 then inner
  else .repetition low high greedy inner

/-- A list of parts with another part in front;
texts that follow each other are one text. -/
def consPart : Normal → List Normal → List Normal
  | .empty, parts => parts
  | .literal s, .literal t :: parts => .literal (s ++ t) :: parts
  | part, parts => part :: parts

/-- The parts of an expression that is a sequence;
others have themselves as only part. -/
def partsOf : Normal → List Normal
  | .sequence parts => parts
  | e => [e]

def concat
    (es : List Normal) : Normal :=
  match (es.flatMap partsOf).foldr consPart [] with
  | [] => .empty
  | [part] => part
  | parts => .sequence parts

/-- The branches of an expression that is an
alternation; others have themselves as only branch. -/
def branchesOf : Normal → List Normal
  | .alternation branches => branches
  | e => [e]

/-- The only character of an expression that is one. -/
def character? : Normal → Option Char
  | .literal [c] => some c
  | _ => none

/-- The members of an expression that is a set. -/
def members? : Normal → Option CodePointSet
  | .set _ members => some members
  | _ => none

/-- The sequence of parts that both of two lists start with. -/
def commonStart : List Normal → List Normal → List Normal
  | e :: es, f :: fs => if e.same f then e :: commonStart es fs else []
  | _, _ => []

/-- What all branches start with, if they are sequences. -/
def sharedParts : List Normal → List Normal
  | [.sequence parts] => parts
  | .sequence parts :: branches => commonStart parts (sharedParts branches)
  | _ => []

/-- One of several expressions. Single characters and sets are put together into one set,
and what all branches start with is put in front of them; the bound tells how often. -/
def alternateUpTo : Nat → List Normal → Normal
  | bound, es =>
      match es.flatMap branchesOf with
      | [] => fail
      | [branch] => branch
      | branches =>
          match branches.mapM character?, branches.mapM members? with
          | some cs, _ =>
              ofSet false (CodePointSet.ofIntervals (cs.map fun c => ⟨c.toNat, c.toNat⟩))
          | none, some sets =>
              ofSet false (CodePointSet.ofIntervals
                (sets.flatMap CodePointSet.intervals))
          | none, none =>
              match bound, sharedParts branches with
              | bound + 1, part :: parts =>
                  let rests := branches.map fun e =>
                    concat ((partsOf e).drop (parts.length + 1))
                  concat (part :: parts ++ [alternateUpTo bound rests])
              | _, _ => .alternation branches

def alternate
    (es : List Normal) : Normal :=
  alternateUpTo (es.flatMap branchesOf |>.flatMap partsOf).length es

end Normal

end Regex
end TriggerScript
