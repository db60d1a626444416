import TriggerScript.Regex.Encoding
import TriggerScript.Regex.Normal
import Std.Data.HashMap

/-!
# The size of automata

An expression is matched by two automata over bytes, one that reads forwards and one that
reads backwards. They are built state by state, with each counted repetition written out.
This module does not build the automata, it only adds up what their states take.

The states of most parts do not depend on where the part stands. Sets of other characters
than ASCII share states where they can: a state that leads on in the same way as an
earlier one is not built again as long as the earlier one is remembered. What is
remembered depends on the numbers of the states, which count on through the whole
automaton.
-/

namespace TriggerScript
namespace Regex

open Unicode

/-- The way in which an automaton reads. -/
inductive Direction where
  | forwards
  | backwards
deriving DecidableEq

/-- What has been built of an automaton. -/
structure Tally where
  states : Nat
  /-- The bytes for lists of targets, beyond those that every state takes. -/
  extra : Nat

namespace Tally

def zero : Tally := ⟨0, 0⟩

def add
    (s t : Tally) : Tally :=
  ⟨s.states + t.states, s.extra + t.extra⟩

def times
    (n : Nat) (t : Tally) : Tally :=
  ⟨n * t.states, n * t.extra⟩

def stateSize : Nat := 32

/-- The size in bytes of a target for a range of bytes. -/
def rangeSize : Nat := 8

/-- The size in bytes of a target that is reached without reading. -/
def targetSize : Nat := 4

def size
    (t : Tally) : Nat :=
  stateSize * t.states + t.extra

/-- The size in bytes up to which an automaton may grow: ten mebibytes. -/
def limit : Nat := 10 * 1024 * 1024

def isTooLarge
    (t : Tally) : Bool :=
  limit < t.size

/-- A number of states that lead to one target each. -/
def plain
    (n : Nat) : Tally :=
  ⟨n, 0⟩

/-- A state with a number of targets that are reached without reading. -/
def fork
    (n : Nat) : Tally :=
  ⟨1, targetSize * n⟩

/-- A state with a number of targets for ranges of bytes. -/
def choice
    (n : Nat) : Tally :=
  ⟨1, rangeSize * n⟩

end Tally

/-! ## Remembering states -/

/-- A way from one state to another. -/
structure Transition where
  range : ByteRange
  target : Nat
deriving DecidableEq

def hashOf
    (numbers : List Nat) : UInt64 :=
  numbers.foldl (fun h n => (h ^^^ UInt64.ofNat n) * 1099511628211) 14695981039346656037

/-- An automaton that grows, with the states that are remembered, each at a place that
its key tells. A later state takes the place of an earlier one. -/
structure Workshop (κ : Type) where
  tally : Tally
  memory : Std.HashMap Nat (κ × Nat)

namespace Workshop

/-- The number of the state that is remembered for a key. -/
def known? {κ : Type} [DecidableEq κ]
    (place : Nat) (key : κ) (w : Workshop κ) : Option Nat :=
  match w.memory[place]? with
  | some (known, id) => if known = key then some id else none
  | none => none

/-- The state that is remembered for a key, or else a new one
that takes the given bytes; what comes out is its number. -/
def state {κ : Type} [DecidableEq κ]
    (place : Nat) (key : κ) (made : Tally) (w : Workshop κ) : Nat × Workshop κ :=
  match w.known? place key with
  | some id => (id, w)
  | none =>
      (w.tally.states, ⟨w.tally.add made, w.memory.insert place (key, w.tally.states)⟩)

end Workshop

/-! ## Sets, read forwards -/

/-- A state that is not complete: the ways that lead on from it, the last one first, and
the range of the way whose target is still being built. -/
structure OpenState where
  done : List Transition
  pending? : Option ByteRange

namespace OpenState

def complete
    (s : OpenState) (target : Nat) : OpenState :=
  match s.pending? with
  | some range => ⟨⟨range, target⟩ :: s.done, none⟩
  | none => s

def transitions
    (s : OpenState) : List Transition :=
  s.done.reverse

end OpenState

/-- How many complete states are remembered when reading forwards. -/
def forwardsPlaces : Nat := 10000

def completeState
    (ways : List Transition) (w : Workshop (List Transition)) :
    Nat × Workshop (List Transition) :=
  let key := ways.flatMap fun t => [t.range.first, t.range.last, t.target]
  let place := (hashOf key).toNat % forwardsPlaces
  w.state place ways (Tally.choice ways.length)

/-- Complete a chain of open states, the last of which leads to a target. -/
def closeAll
    (target : Nat) :
    List OpenState → Workshop (List Transition) → Nat × Workshop (List Transition)
  | [], w => (target, w)
  | s :: rest, w =>
      let (next, w) := closeAll target rest w
      completeState (s.complete next).transitions w

/-- Add a sequence to a chain of open states: it keeps to the chain as long as it has the
same ranges, and what comes after that is completed. -/
def addSequence
    (target : Nat) :
    ByteSequence → List OpenState → Workshop (List Transition) →
      List OpenState × Workshop (List Transition)
  | range :: ranges, s :: rest, w =>
      if s.pending? = some range then
        let (rest, w) := addSequence target ranges rest w
        (s :: rest, w)
      else
        let (next, w) := closeAll target rest w
        let s := s.complete next
        (⟨s.done, some range⟩ :: ranges.map (fun r => ⟨[], some r⟩), w)
  | [], chain, w => (chain, w)
  | ranges, [], w => (ranges.map fun r => ⟨[], some r⟩, w)

/-- What a set takes, given by its sequences. -/
def tallyForwards
    (sequences : List ByteSequence) (t : Tally) : Tally :=
  let target := t.states
  let start : List OpenState × Workshop (List Transition) :=
    ([⟨[], none⟩], ⟨t.add (Tally.plain 1), ∅⟩)
  let (chain, w) := sequences.foldl (fun s q => addSequence target q s.1 s.2) start
  (closeAll target chain w).2.tally

/-! ## Sets, read backwards -/

/-- How many states are remembered when reading backwards. -/
def backwardsPlaces : Nat := 1000

/-- Add a sequence: a state for each of its ranges, each leading to the one before. -/
def addBackwards : ByteSequence → Nat → Workshop Transition → Workshop Transition
  | [], _, w => w
  | range :: ranges, target, w =>
      let place := (hashOf [target, range.first, range.last]).toNat % backwardsPlaces
      let (id, w) := w.state place ⟨range, target⟩ (Tally.plain 1)
      addBackwards ranges id w

/-- What a set takes, given by its sequences: a state
that leads to each of them, and one at their end. -/
def tallyBackwards
    (sequences : List ByteSequence) (t : Tally) : Tally :=
  let target := t.states + 1
  let start : Workshop Transition :=
    ⟨(t.add (Tally.fork sequences.length)).add (Tally.plain 1), ∅⟩
  (sequences.foldl (fun w q => addBackwards q target w) start).tally

/-! ## Plans -/

/-- What is to be built, in the order in which it is built. -/
inductive Plan where
  /-- States that take the same wherever they stand. -/
  | fixed (tally : Tally)
  /-- A set, given by its sequences. -/
  | set (direction : Direction) (sequences : List ByteSequence)
  | andThen (first second : Plan)
  | copies (n : Nat) (plan : Plan)

namespace Plan

def nothing : Plan := .fixed Tally.zero

def followedBy : Plan → Plan → Plan
  | .fixed s, .fixed t => .fixed (s.add t)
  | p, q => .andThen p q

def repeated
    (n : Nat) : Plan → Plan
  | .fixed t => .fixed (t.times n)
  | p => .copies n p

/-- Do something a number of times, until it is too large. -/
def growing
    (step : Tally → Tally) : Nat → Tally → Tally
  | 0, t => t
  | n + 1, t => if t.isTooLarge then t else growing step n (step t)

/-- What there is once a plan has been carried out. -/
def build : Plan → Tally → Tally
  | .fixed s, t => t.add s
  | .set .forwards sequences, t => tallyForwards sequences t
  | .set .backwards sequences, t => tallyBackwards sequences t
  | .andThen p q, t => q.build (p.build t)
  | .copies n p, t => growing p.build n t

end Plan

/-! ## Lists of texts -/

/-- The ways through a list of texts, from one place in them on. -/
inductive Trie where
  | done
  /-- One of the texts ends here. -/
  | stop (rest : Trie)
  | branch (byte : UInt8) (child rest : Trie)

namespace Trie

def isLeaf : Trie → Bool
  | .done => true
  | .stop rest => rest.isLeaf
  | .branch _ _ _ => false

def hasStop : Trie → Bool
  | .done => false
  | .stop _ => true
  | .branch _ _ rest => rest.hasStop

def path : List UInt8 → Trie
  | [] => .stop .done
  | b :: bs => .branch b (path bs) .done

/-- The same place with one more text that ends there. -/
def addStop : Trie → Trie
  | .done => .stop .done
  | .stop rest => .stop rest.addStop
  | .branch byte child rest => .branch byte child rest.addStop

/-- Add a text. Its way is looked for behind the last of the texts that end here, among
ways in ascending order. Where no way leads on, a text ends once only. -/
def insert : List UInt8 → Trie → Trie
  | [], t => if t.isLeaf && t.hasStop then t else t.addStop
  | bs, .done => path bs
  | bs, .stop rest => .stop (insert bs rest)
  | b :: bs, .branch c child rest =>
      if rest.hasStop || c < b then .branch c child (insert (b :: bs) rest)
      else if b = c then .branch c (insert bs child) rest
      else .branch b (path bs) (.branch c child rest)

/-- What a group of ways takes, with the target that leads to it. -/
def group : Nat → Tally
  | 0 => Tally.zero
  | 1 => (Tally.plain 1).add ⟨0, Tally.targetSize⟩
  | n => (Tally.choice n).add ⟨0, Tally.targetSize⟩

/-- What the ways take, where a number of ways since
the last text that ends here have been read already. -/
def tallyFrom : Nat → Trie → Tally
  | n, .done => (group n).add (Tally.plain 1)
  | n, .stop rest => ((group n).add ⟨0, Tally.targetSize⟩).add (tallyFrom 0 rest)
  | n, .branch _ child rest =>
      (if child.isLeaf then Tally.zero else tallyFrom 0 child).add
        (tallyFrom (n + 1) rest)

def tally
    (texts : List (List UInt8)) : Tally :=
  (tallyFrom 0 (texts.foldl (fun t bs => t.insert bs) .done)).add (Tally.plain 1)

end Trie

/-! ## Plans for expressions -/

namespace Normal

def text? : Normal → Option (List Char)
  | .literal text => some text
  | _ => none

/-- The bytes of a text in the order in which they are read. -/
def bytes
    (d : Direction) (text : List Char) : List UInt8 :=
  let own := text.flatMap String.utf8EncodeChar
  if d = .forwards then own else own.reverse

/-- Whether a match has at least one byte. -/
def isNeverEmpty
    (e : Normal) : Bool :=
  e.minLength?.any (0 < ·)

mutual

/-- Whether the last state of an expression is one with
several targets. What follows takes one more target of it. -/
def endsInFork
    (d : Direction) : Normal → Bool
  | .repetition low none _ inner => low != 0 || inner.isNeverEmpty
  | .repetition low (some high) _ inner => low == high && inner.endsInFork d
  | .capture inner => d = .backwards && inner.endsInFork d
  | .sequence parts =>
      if d = .forwards then lastEndsInFork d parts else firstEndsInFork d parts
  | _ => false

/-- The same for the first one of several expressions. -/
def firstEndsInFork
    (d : Direction) : List Normal → Bool
  | [] => false
  | part :: _ => part.endsInFork d

/-- The same for the last one of several expressions. -/
def lastEndsInFork
    (d : Direction) : List Normal → Bool
  | [] => false
  | [part] => part.endsInFork d
  | _ :: parts => lastEndsInFork d parts

end

/-- What it takes to lead on from an expression a number of times. -/
def links
    (d : Direction) (n : Nat) (e : Normal) : Plan :=
  .fixed ⟨0, if e.endsInFork d then Tally.targetSize * n else 0⟩

/-- What it takes to lead on from each of several expressions. -/
def linksOfAll
    (d : Direction) : List Normal → Plan
  | [] => Plan.nothing
  | e :: es => (e.links d 1).followedBy (linksOfAll d es)

/-- What a part takes that is repeated `n` times, without what leads on from it. -/
def exactly
    (n : Nat) (part : Plan) : Plan :=
  if n = 0 then .fixed (Tally.plain 1) else part.repeated n

/-- What a part takes that is repeated, without what leads on from it. -/
def repetitionPlan
    (low : Nat) (high : Option Nat) (neverEmpty : Bool) (part : Plan) : Plan :=
  match low, high with
  | 0, some 1 =>
      (Plan.fixed (Tally.fork 2)).followedBy (part.followedBy (.fixed (Tally.plain 1)))
  | 0, none =>
      if neverEmpty then
        (Plan.fixed (Tally.fork 1)).followedBy part
      else
        part.followedBy
          (.fixed (((Tally.fork 2).add (Tally.fork 2)).add (Tally.plain 1)))
  | low, none => (exactly low part).followedBy (.fixed (Tally.fork 1))
  | low, some high =>
      if low = high then
        exactly low part
      else
        ((exactly low part).followedBy (.fixed (Tally.plain 1))).followedBy
          (((Plan.fixed (Tally.fork 2)).followedBy part).repeated (high - low))

/-- How often something leads on from a repeated part. -/
def repetitionLinks
    (low : Nat) : Option Nat → Nat
  | some high => if low = high then high - 1 else high
  | none => max low 1

mutual

def plan
    (d : Direction) : Normal → Plan
  | .empty => .fixed (Tally.plain 1)
  | .literal text => .fixed (Tally.plain (bytes d text).length)
  | .set asBytes members =>
      if asBytes || members.isAscii then
        .fixed ((Tally.plain 1).add (Tally.choice members.intervals.length))
      else
        .set d (ByteSequence.ofSet members)
  | .look _ => .fixed (Tally.plain 1)
  | .repetition low high _ inner =>
      (repetitionPlan low high inner.isNeverEmpty (inner.plan d)).followedBy
        (inner.links d (repetitionLinks low high))
  | .capture inner =>
      if d = .forwards then
        (Plan.fixed (Tally.plain 1)).followedBy
          (((inner.plan d).followedBy (inner.links d 1)).followedBy
            (.fixed (Tally.plain 1)))
      else
        inner.plan d
  | .sequence parts =>
      if d = .forwards then
        (planInOrder d parts).followedBy (linksOfAll d parts.dropLast)
      else
        (planReversed d parts).followedBy (linksOfAll d parts.tail)
  | .alternation branches =>
      match branches.mapM text? with
      | some texts => .fixed (Trie.tally (texts.map (bytes d)))
      | none =>
          (planOfBranches d branches.length 0 branches).followedBy
            (linksOfAll d branches)

/-- What is to be built for several expressions in order. -/
def planInOrder
    (d : Direction) : List Normal → Plan
  | [] => Plan.nothing
  | e :: es => (e.plan d).followedBy (planInOrder d es)

/-- What is to be built for several expressions, the last one first. -/
def planReversed
    (d : Direction) : List Normal → Plan
  | [] => Plan.nothing
  | e :: es => (planReversed d es).followedBy (e.plan d)

/-- What is to be built for the branches of an alternation, of
which some have been planned. The state that leads to each of
them and the one at their end come after the second one. -/
def planOfBranches
    (d : Direction) (total planned : Nat) : List Normal → Plan
  | [] => Plan.nothing
  | e :: es =>
      let around : Plan :=
        if planned = 1 then .fixed ((Tally.fork total).add (Tally.plain 1))
        else Plan.nothing
      (e.plan d).followedBy (around.followedBy (planOfBranches d total (planned + 1) es))

end

mutual

/-- Whether a match can only be at the start of
the text, or at its end when reading backwards. -/
def isAnchored
    (d : Direction) : Normal → Bool
  | .look condition => condition = if d = .forwards then .textStart else .textEnd
  | .repetition low _ _ inner => low != 0 && inner.isAnchored d
  | .capture inner => inner.isAnchored d
  | .sequence parts =>
      if d = .forwards then isAnchoredFirst d parts else isAnchoredLast d parts
  | .alternation branches => isAnchoredEach d branches
  | _ => false

/-- Whether one of the parts before the first one
that reads something is anchored, or that one. -/
def isAnchoredFirst
    (d : Direction) : List Normal → Bool
  | [] => false
  | e :: es => e.isAnchored d || (e.maxLength? = some 0 && isAnchoredFirst d es)

/-- Whether one of the parts after the last one
that reads something is anchored, or that one. -/
def isAnchoredLast
    (d : Direction) : List Normal → Bool
  | [] => false
  | e :: es =>
      isAnchoredLast d es || (es.all (fun f => f.maxLength? = some 0) && e.isAnchored d)

def isAnchoredEach
    (d : Direction) : List Normal → Bool
  | [] => true
  | e :: es => e.isAnchored d && isAnchoredEach d es

end

/-- What is to be built before an expression that
may match anywhere: a loop that reads any byte. -/
def searchPlan
    (anchored : Bool) : Plan :=
  if anchored then
    .fixed (Tally.plain 1)
  else
    .fixed (((Tally.fork 2).add (Tally.plain 1)).add (Tally.choice 1))

/-- What is to be built for the automaton of a whole expression.
The automaton that reads forwards keeps what is matched. -/
def automatonPlan
    (d : Direction) (e : Normal) : Plan :=
  let whole : Plan :=
    match d with
    | .forwards => (Normal.capture e).plan d
    | .backwards => (e.plan d).followedBy (e.links d 1)
  (searchPlan (e.isAnchored d)).followedBy (whole.followedBy (.fixed (Tally.plain 1)))

/-- From how many texts on a list of texts is looked for without an automaton. -/
def longList : Nat := 3000

/-- Whether an expression is a long list of texts. -/
def isLongList : Normal → Bool
  | .alternation branches =>
      longList ≤ branches.length && branches.all fun e => e.text?.isSome
  | _ => false

/-- Whether one of the automata of an expression grows too large. -/
def isTooLarge
    (e : Normal) : Bool :=
  !e.isLongList
    && [Direction.forwards, .backwards].any fun d =>
      ((automatonPlan d e).build Tally.zero).isTooLarge

end Normal

end Regex
end TriggerScript
