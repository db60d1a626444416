import TriggerScript.Regex.Normal
import TriggerScript.Regex.Property
import TriggerScript.Unicode.Folding

/-!
# The meaning of regular expressions

The normal form of an expression depends on the switches that are on where it stands.
Without the Unicode mode the characters of classes are bytes, so that only ASCII
characters can be named and nothing can be negated: an expression must not match a single
byte of a longer character.
-/

namespace TriggerScript
namespace Regex

open Unicode

/-- The switches at a place. -/
structure Mode where
  ignoreCase : Bool
  multiLine : Bool
  dotMatchesNewLine : Bool
  swapGreed : Bool
  unicode : Bool
  carriageReturn : Bool

namespace Mode

def initial : Mode := ⟨false, false, false, false, true, false⟩

def turn
    (m : Mode) (fs : Flags) : Mode :=
  { ignoreCase := fs.state .ignoreCase m.ignoreCase
    multiLine := fs.state .multiLine m.multiLine
    dotMatchesNewLine := fs.state .dotMatchesNewLine m.dotMatchesNewLine
    swapGreed := fs.state .swapGreed m.swapGreed
    unicode := fs.state .unicode m.unicode
    carriageReturn := fs.state .carriageReturn m.carriageReturn }

/-- The ASCII letters that differ in case only from those of a set. -/
def asciiFolding
    (s : CodePointSet) : CodePointSet :=
  CodePointSet.ofIntervals ((List.range 26).flatMap fun i =>
    let upper := 'A'.toNat + i
    let lower := 'a'.toNat + i
    if s.contains upper || s.contains lower then [⟨upper, upper⟩, ⟨lower, lower⟩]
    else [])

/-- A set with all characters that count as the same. -/
def fold
    (m : Mode) (s : CodePointSet) : CodePointSet :=
  if !m.ignoreCase then s
  else if m.unicode then s.foldCase
  else s.union (asciiFolding s)

/-- A set, unless the mode forbids it. -/
def permit
    (m : Mode) (s : CodePointSet) : Except Problem CodePointSet :=
  if m.unicode || s.isAscii then .ok s else .error .notUtf8

end Mode

def setOfRanges
    (ranges : List (Char × Char)) : CodePointSet :=
  CodePointSet.ofIntervals (ranges.map fun r => ⟨r.1.toNat, r.2.toNat⟩)

/-- The ASCII members of a class that a letter names. -/
def LetterClass.asciiMembers : LetterClass → CodePointSet
  | .digit => setOfRanges [('0', '9')]
  | .space => setOfRanges [('\t', '\r'), (' ', ' ')]
  | .word => setOfRanges [('0', '9'), ('A', 'Z'), ('_', '_'), ('a', 'z')]

/-- What a class that a letter names holds in the Unicode mode. -/
def LetterClass.description : LetterClass → Description
  | .digit => .categories ["nd"]
  | .space => Binary.whiteSpace
  | .word =>
      Binary.alphabetic ∪ .categories ["mc", "me", "mn", "nd", "pc"] ∪ Binary.joinControl

/-- The members of a class that a letter names. -/
def LetterClass.members
    (kind : LetterClass) (negated : Bool) (m : Mode) : Except Problem CodePointSet :=
  let own := if m.unicode then kind.description.codePoints else kind.asciiMembers
  m.permit (own.complIf negated)

/-- The members of a class that is named by a property. -/
def PropertyClass.members
    (p : PropertyClass) (m : Mode) : Except Problem CodePointSet :=
  match m.unicode, p.members? with
  | true, some own => .ok ((m.fold own).complIf p.negated)
  | _, _ => .error .unknownProperty

/-- The set that an operation makes of two sets. -/
def SetOperation.apply : SetOperation → CodePointSet → CodePointSet → CodePointSet
  | .inter => CodePointSet.inter
  | .diff => CodePointSet.diff
  | .symmDiff => CodePointSet.symmDiff

mutual

/-- The members of a set, before those that differ in case only are added. -/
def CharSet.members
    (m : Mode) : CharSet → Except Problem CodePointSet
  | .empty => .ok CodePointSet.empty
  | .literal c => m.permit (CodePointSet.range c c)
  | .range first last => m.permit (CodePointSet.range first last)
  | .posix ranges negated => m.permit ((m.fold (setOfRanges ranges)).complIf negated)
  | .letter kind negated => kind.members negated m
  | .property p => p.members m
  | .bracketed negated inner => do
      m.permit ((m.fold (← inner.members m)).complIf negated)
  | .union items => CharSet.membersOfAll m items
  | .combined operation left right => do
      let l ← left.members m
      let r ← right.members m
      return operation.apply (m.fold l) (m.fold r)

def CharSet.membersOfAll
    (m : Mode) : List CharSet → Except Problem CodePointSet
  | [] => .ok CodePointSet.empty
  | item :: items => do
      let s ← item.members m
      return s.union (← CharSet.membersOfAll m items)

end

def Assertion.look
    (m : Mode) : Assertion → Look
  | .lineStart => if m.multiLine then .lineStart m.carriageReturn else .textStart
  | .lineEnd => if m.multiLine then .lineEnd m.carriageReturn else .textEnd
  | .textStart => .textStart
  | .textEnd => .textEnd
  | .boundary kind => .boundary kind m.unicode

def normalOfChar
    (m : Mode) (c : Char) (asByte : Bool) : Except Problem Normal :=
  if !m.unicode && asByte && 128 ≤ c.toNat then
    .error .notUtf8
  else if m.ignoreCase then
    .ok (Normal.ofSet (!m.unicode) (m.fold (CodePointSet.range c c)))
  else
    .ok (.literal [c])

def dotMembers
    (m : Mode) : CodePointSet :=
  if m.dotMatchesNewLine then CodePointSet.univ
  else if m.carriageReturn then (setOfRanges [('\n', '\n'), ('\r', '\r')]).compl
  else (CodePointSet.range '\n' '\n').compl

mutual

/-- The normal form of an expression, and the mode
after it, which switches in it may have changed. -/
def Expr.normal
    (m : Mode) : Expr → Except Problem (Normal × Mode)
  | .empty => .ok (.empty, m)
  | .flags fs => .ok (.empty, m.turn fs)
  | .literal c asByte => (normalOfChar m c asByte).map fun e => (e, m)
  | .dot =>
      if m.unicode then .ok (Normal.ofSet false (dotMembers m), m) else .error .notUtf8
  | .assertion kind => .ok (.look (kind.look m), m)
  | .letter kind negated =>
      (kind.members negated m).map fun s => (Normal.ofSet (!m.unicode) s, m)
  | .property p => (p.members m).map fun s => (Normal.ofSet false s, m)
  | .bracketed negated set =>
      ((CharSet.bracketed negated set).members m).map fun s =>
        (Normal.ofSet (!m.unicode) s, m)
  | .repetition low high greedy inner => do
      let (e, m) ← inner.normal m
      return (Normal.repeated low high (greedy != m.swapGreed) e, m)
  | .group .capturing inner => (inner.normal m).map fun r => (.capture r.1, m)
  | .group (.plain fs) inner => (inner.normal (m.turn fs)).map fun r => (r.1, m)
  | .alternation branches => (Expr.normalOfAll m branches).map fun r =>
      (Normal.alternate r.1, r.2)
  | .sequence parts => (Expr.normalOfAll m parts).map fun r => (Normal.concat r.1, r.2)

/-- The normal forms of several expressions in a row, and the mode after them. -/
def Expr.normalOfAll
    (m : Mode) : List Expr → Except Problem (List Normal × Mode)
  | [] => .ok ([], m)
  | e :: es => do
      let (n, m) ← e.normal m
      let (ns, m) ← Expr.normalOfAll m es
      return (n :: ns, m)

end

end Regex
end TriggerScript
