import TriggerScript.Regex.Expression
import TriggerScript.Text.Alphanumeric
import TriggerScript.Text.Blank

/-!
# Reading regular expressions

The reader goes through the text once from left to right. Open groups and open classes
are kept on stacks, so that the depth of the text does not matter for reading. In the
verbose mode, which a flag turns on for the rest of a group, blanks and comments between
items are skipped.

Every loop here reads at least one character per turn; its first argument bounds the
turns by the length of the text.
-/

namespace TriggerScript
namespace Regex

/-- The state of the reader. -/
structure Scanner where
  rest : List Char
  /-- Whether blanks and comments are skipped. -/
  verbose : Bool
  /-- The names of the groups so far. -/
  names : List (List Char)

abbrev Scan := StateT Scanner (Except Problem)

namespace Scan

def peek : Scan (Option Char) := do
  return (← get).rest.head?

def bump : Scan Unit :=
  modify fun s => { s with rest := s.rest.tail }

/-- The text without blanks and comments in front; the
switch tells whether it starts inside of a comment. -/
def dropSpace : Bool → List Char → List Char
  | _, [] => []
  | false, c :: cs =>
      if Text.isBlank c then
        dropSpace false cs
      else if c = '#' then
        dropSpace true cs
      else
        c :: cs
  | true, c :: cs => dropSpace (c != '\n') cs

/-- Go past blanks and comments in the verbose mode. -/
def skipSpace : Scan Unit :=
  modify fun s => if s.verbose then { s with rest := dropSpace false s.rest } else s

/-- Go past the next character and what may be skipped after it. -/
def bumpSpace : Scan Unit := do
  bump
  skipSpace

/-- Go past a given text if it comes next. -/
def bumpIf
    (text : List Char) : Scan Bool := do
  if text.isPrefixOf (← get).rest then
    modify fun s => { s with rest := s.rest.drop text.length }
    return true
  else
    return false

/-- Go past a text of which one has to come next. -/
def expect
    (c : Char) (problem : Problem) : Scan Unit := do
  if (← peek) = some c then bump else throw problem

/-- The longest run of characters with a property; `step` goes past each of them. -/
def readRun
    (step : Scan Unit) (p : Char → Bool) : Nat → Scan (List Char)
  | 0 => return []
  | fuel + 1 => do
      match ← peek with
      | some c =>
          if p c then
            step
            return c :: (← readRun step p fuel)
          else
            return []
      | none => return []

/-- The longest run of characters with a property, up to the end of the text. -/
def readAll
    (step : Scan Unit) (p : Char → Bool) : Scan (List Char) := do
  readRun step p (← get).rest.length

/-- The character after the next one, without what may be skipped in between. -/
def peekAfterSpace : Scan (Option Char) := do
  let s ← get
  let after := s.rest.tail
  if s.verbose then
    match after.dropWhile Text.isBlank with
    | '#' :: comment => return (comment.dropWhile Text.isBlank).head?
    | rest => return rest.head?
  else
    return after.head?

end Scan

open Scan

/-- The value of a list of digits in a base. -/
def numberOf
    (base : Nat) (digits : List Char) : Nat :=
  digits.foldl
    (fun n c =>
      let d :=
        if c.isDigit then c.toNat - '0'.toNat
        else c.toLower.toNat - 'a'.toNat + 10
      base * n + d)
    0

def isHexDigit
    (c : Char) : Bool :=
  c.isDigit || ('a' ≤ c.toLower && c.toLower ≤ 'f')

/-- A number with blanks around it, of 32 bits; `none` if there is no digit. -/
def readDecimal : Scan (Option Nat) := do
  let _ ← readAll bump Text.isBlank
  let digits ← readAll bumpSpace Char.isDigit
  let _ ← readAll bumpSpace Text.isBlank
  if digits.isEmpty then
    return none
  let n := numberOf 10 digits
  if n < UInt32.size then return some n else throw .badRepetition

def requireDecimal : Scan Nat := do
  match ← readDecimal with
  | some n => return n
  | none => throw .badRepetition

/-- The bounds of a counted repetition, from its opening brace on. -/
def readCount : Scan (Nat × Option Nat) := do
  bumpSpace
  let low ← readDecimal
  let bounds ←
    if (← peek) = some ',' then do
      bumpSpace
      match low with
      | none => throw .badRepetition
      | some low =>
          if (← peek) = some '}' then
            pure (low, none)
          else
            pure (low, some (← requireDecimal))
    else
      match low with
      | none => throw .badRepetition
      | some low => pure (low, some low)
  expect '}' .badRepetition
  skipSpace
  match bounds with
  | (low, some high) => if low ≤ high then return bounds else throw .badRepetition
  | _ => return bounds

/-- The character of a code point, if it has one. -/
def charOf?
    (n : Nat) : Option Char :=
  if n.isValidChar then some (Char.ofNat n) else none

/-- The digits of a character given by hexadecimal
digits, and whether there are braces around them. -/
def readHexDigits
    (width : Nat) : Scan (List Char × Bool) := do
  if (← peek) = some '{' then
    bumpSpace
    let digits ← readAll bumpSpace isHexDigit
    expect '}' .badEscape
    skipSpace
    return (digits, true)
  else
    let digits ← readRun bumpSpace isHexDigit width
    if digits.length = width then return (digits, false) else throw .badEscape

/-- A character given by hexadecimal digits, after the letter that announces them. Two
digits without braces may also be meant as a byte. -/
def readHex
    (width : Nat) : Scan (Char × Bool) := do
  let (digits, braced) ← readHexDigits width
  if digits.isEmpty then
    throw .badEscape
  match charOf? (numberOf 16 digits) with
  | some c => return (c, width == 2 && !braced)
  | none => throw .badEscape

/-- The two sides of a text around the first occurrence of another text. -/
def cutAt?
    (mark : List Char) : List Char → Option (List Char × List Char)
  | [] => none
  | c :: cs =>
      if mark.isPrefixOf (c :: cs) then
        some ([], (c :: cs).drop mark.length)
      else
        (cutAt? mark cs).map fun r => (c :: r.1, r.2)

def propertyOf
    (negated : Bool) (text : List Char) : PropertyClass :=
  match cutAt? ['!', '='] text, (cutAt? [':'] text).or (cutAt? ['='] text) with
  | some (name, value), _ => ⟨name, some value, !negated⟩
  | none, some (name, value) => ⟨name, some value, negated⟩
  | none, none => ⟨text, none, negated⟩

/-- A class named by a Unicode property, after the letter that announces it. -/
def readProperty
    (negated : Bool) : Scan PropertyClass := do
  bumpSpace
  match ← peek with
  | none => throw .badEscape
  | some '{' =>
      bumpSpace
      let text ← readAll bumpSpace (· != '}')
      expect '}' .badEscape
      return propertyOf negated text
  | some '\\' => throw .badClassItem
  | some c =>
      bumpSpace
      return ⟨[c], none, negated⟩

/-- A single item: a character, a class or an assertion. -/
inductive Atom where
  | literal (c : Char) (asByte : Bool)
  | letter (kind : LetterClass) (negated : Bool)
  | property (p : PropertyClass)
  | assertion (kind : Assertion)

def Atom.expr : Atom → Expr
  | .literal c asByte => .literal c asByte
  | .letter kind negated => .letter kind negated
  | .property p => .property p
  | .assertion kind => .assertion kind

/-- Characters that may always be written after a backslash to stand for themselves:
everything in ASCII but letters, digits and angle brackets. -/
def isEscapable
    (c : Char) : Bool :=
  c.toNat < 128 && !c.isAlphanum && c != '<' && c != '>'

def boundaryOf? : String → Option Boundary
  | "start" => some .start
  | "end" => some .stop
  | "start-half" => some .startHalf
  | "end-half" => some .stopHalf
  | _ => none

/-- The kind of a word boundary, which a name in braces may tell; the braces may also
hold a count, which is no part of it. -/
def readBoundary : Scan Boundary := do
  if (← peek) = some '{' then
    let before ← get
    bumpSpace
    match ← peek with
    | none => throw .badEscape
    | some c =>
        if c.isAlpha || c = '-' then
          let name ← readAll bumpSpace fun c => c.isAlpha || c == '-'
          expect '}' .badEscape
          match boundaryOf? (String.ofList name) with
          | some kind => return kind
          | none => throw .badEscape
        else
          set before
          return .either
  else
    return .either

def readEscape : Scan Atom := do
  bump
  match ← peek with
  | none => throw .badEscape
  | some c =>
      if c.isDigit then
        throw .backReference
      else if c = 'x' ∨ c = 'u' ∨ c = 'U' then
        bumpSpace
        let (c, asByte) ← readHex (if c = 'x' then 2 else if c = 'u' then 4 else 8)
        return .literal c asByte
      else if c = 'p' ∨ c = 'P' then
        return .property (← readProperty (c == 'P'))
      else
        bump
        if c.toLower = 'd' then
          return .letter .digit (c == 'D')
        else if c.toLower = 's' then
          return .letter .space (c == 'S')
        else if c.toLower = 'w' then
          return .letter .word (c == 'W')
        else if isEscapable c then
          return .literal c false
        else
          match c with
          | 'a' => return .literal '\x07' false
          | 'f' => return .literal '\x0c' false
          | 't' => return .literal '\t' false
          | 'n' => return .literal '\n' false
          | 'r' => return .literal '\r' false
          | 'v' => return .literal '\x0b' false
          | 'A' => return .assertion .textStart
          | 'z' => return .assertion .textEnd
          | 'B' => return .assertion (.boundary .neither)
          | '<' => return .assertion (.boundary .start)
          | '>' => return .assertion (.boundary .stop)
          | 'b' => return .assertion (.boundary (← readBoundary))
          | _ => throw .badEscape

def readClassAtom : Scan Atom := do
  match ← peek with
  | none => throw .unclosedClass
  | some '\\' => readEscape
  | some c =>
      bump
      return .literal c false

/-- An item of a class, or a range between two characters. -/
def readClassItem : Scan CharSet := do
  let first ← readClassAtom
  skipSpace
  let next ← peek
  if next.isNone then
    throw .unclosedClass
  let after ← peekAfterSpace
  if next != some '-' || after = some ']' || after = some '-' then
    match first with
    | .literal c _ => return .literal c
    | .letter kind negated => return .letter kind negated
    | .property p => return .property p
    | .assertion _ => throw .badClassItem
  else
    bumpSpace
    let last ← readClassAtom
    match first, last with
    | .literal low _, .literal high _ =>
        if low ≤ high then return .range low high else throw .badRange
    | _, _ => throw .badRange

/-- The ranges of the class with a name between colons. -/
def posixRanges? : String → Option (List (Char × Char))
  | "alnum" => some [('0', '9'), ('A', 'Z'), ('a', 'z')]
  | "alpha" => some [('A', 'Z'), ('a', 'z')]
  | "ascii" => some [('\x00', '\x7f')]
  | "blank" => some [('\t', '\t'), (' ', ' ')]
  | "cntrl" => some [('\x00', '\x1f'), ('\x7f', '\x7f')]
  | "digit" => some [('0', '9')]
  | "graph" => some [('!', '~')]
  | "lower" => some [('a', 'z')]
  | "print" => some [(' ', '~')]
  | "punct" => some [('!', '/'), (':', '@'), ('[', '\x60'), ('\x7b', '~')]
  | "space" => some [('\t', '\r'), (' ', ' ')]
  | "upper" => some [('A', 'Z')]
  | "word" => some [('0', '9'), ('A', 'Z'), ('_', '_'), ('a', 'z')]
  | "xdigit" => some [('0', '9'), ('A', 'F'), ('a', 'f')]
  | _ => none

/-- A class named between colons, if there is one here; nothing is read otherwise. -/
def readPosix? : Scan (Option CharSet) := do
  let before ← get
  if ← bumpIf ['[', ':'] then
    let negated ← bumpIf ['^']
    let name ← readAll bump (· != ':')
    match ← bumpIf [':', ']'], posixRanges? (String.ofList name) with
    | true, some ranges => return some (.posix ranges negated)
    | _, _ =>
        set before
        return none
  else
    return none

/-- The opening of a class: whether it is negated, and the characters that only stand for
themselves because they come first. -/
def readClassOpening : Scan (Bool × List CharSet) := do
  bumpSpace
  let negated := (← peek) = some '^'
  if negated then
    bumpSpace
  let dashes ← readAll bumpSpace (· == '-')
  let items := dashes.map CharSet.literal
  if items.isEmpty && (← peek) = some ']' then
    bumpSpace
    return (negated, [.literal ']'])
  else
    return (negated, items)

/-- What waits for the end of an inner class or of the right operand of an operation. -/
inductive ClassFrame where
  /-- The items before an inner class, the last one first. -/
  | opened (items : List CharSet) (negated : Bool)
  /-- The left operand. -/
  | operation (kind : SetOperation) (left : CharSet)

/-- The items of a class, the last one first, as one set. -/
def unionOf : List CharSet → CharSet
  | [] => .empty
  | [item] => item
  | items => .union items.reverse

/-- The set so far, with the operation that waits for it. -/
def closeOperation
    (stack : List ClassFrame) (right : CharSet) : CharSet × List ClassFrame :=
  match stack with
  | .operation kind left :: stack => (.combined kind left right, stack)
  | _ => (right, stack)

def operationOf? : Char → Char → Option SetOperation
  | '&', '&' => some .inter
  | '-', '-' => some .diff
  | '~', '~' => some .symmDiff
  | _, _ => none

/-- A class, from its opening bracket on; the items so far come last one first. -/
def readClassFrom : Nat → List ClassFrame → List CharSet → Scan Expr
  | 0, _, _ => throw .unclosedClass
  | fuel + 1, stack, items => do
      skipSpace
      match (← get).rest with
      | [] => throw .unclosedClass
      | '[' :: _ =>
          let posix ← if stack.isEmpty then pure none else readPosix?
          match posix with
          | some item => readClassFrom fuel stack (item :: items)
          | none =>
              let (negated, first) ← readClassOpening
              readClassFrom fuel (.opened items negated :: stack) first
      | ']' :: _ =>
          match closeOperation stack (unionOf items) with
          | (set, .opened outer negated :: stack) =>
              bump
              if stack.isEmpty then
                return .bracketed negated set
              else
                readClassFrom fuel stack (.bracketed negated set :: outer)
          | _ => throw .unclosedClass
      | c :: d :: _ =>
          match operationOf? c d with
          | some kind =>
              bump
              bump
              let (set, stack) := closeOperation stack (unionOf items)
              readClassFrom fuel (.operation kind set :: stack) []
          | none => readClassFrom fuel stack ((← readClassItem) :: items)
      | _ => readClassFrom fuel stack ((← readClassItem) :: items)

def readClass : Scan Expr := do
  readClassFrom ((← get).rest.length + 1) [] []

def flagOf? : Char → Option Flag
  | 'i' => some .ignoreCase
  | 'm' => some .multiLine
  | 's' => some .dotMatchesNewLine
  | 'U' => some .swapGreed
  | 'u' => some .unicode
  | 'R' => some .carriageReturn
  | 'x' => some .verbose
  | _ => none

/-- The flags of a list of letters; each may occur once,
and one hyphen before the ones that are turned off. -/
def flagsOf : List Char → Bool → Flags → Except Problem Flags
  | [], _, fs => .ok fs
  | '-' :: rest, negated, fs =>
      if negated || rest.isEmpty then .error .badFlags else flagsOf rest true fs
  | c :: rest, negated, fs =>
      match flagOf? c with
      | none => .error .badFlags
      | some f =>
          if fs.mentions f then
            .error .badFlags
          else
            flagsOf rest negated
              (if negated then ⟨fs.on, f :: fs.off⟩ else ⟨f :: fs.on, fs.off⟩)

/-- Whether a character may stand in the name of a group, at its start or later. -/
def isNameChar
    (first : Bool) (c : Char) : Bool :=
  if first then
    c == '_' || Text.isAlphabetic c
  else
    c == '_' || c == '.' || c == '[' || c == ']' || Text.isAlphanumeric c

/-- The name of a group, up to its closing angle bracket. -/
def readGroupName : Scan Unit := do
  let name ← readAll bump (· != '>')
  expect '>' .badGroupName
  match name with
  | [] => throw .badGroupName
  | c :: cs =>
      if isNameChar true c && cs.all (isNameChar false) &&
          !(← get).names.contains name then
        modify fun s => { s with names := name :: s.names }
      else
        throw .badGroupName

/-- What an opening parenthesis begins. -/
inductive Opening where
  /-- Flags for the rest of the group around it. -/
  | switch (fs : Flags)
  | group (kind : GroupKind)

def readOpening : Scan Opening := do
  bump
  skipSpace
  if ← bumpIf ['?', '='] <||> bumpIf ['?', '!'] <||> bumpIf ['?', '<', '=']
      <||> bumpIf ['?', '<', '!'] then
    throw .lookAround
  else if ← bumpIf ['?', 'P', '<'] <||> bumpIf ['?', '<'] then
    readGroupName
    return .group .capturing
  else if ← bumpIf ['?'] then
    let letters ← readAll bump fun c => c != ':' && c != ')'
    let fs ← flagsOf letters false Flags.none
    match ← peek with
    | some ':' =>
        bump
        return .group (.plain fs)
    | some _ =>
        bump
        if letters.isEmpty then throw .missingOperand else return .switch fs
    | none => throw .unclosedGroup
  else
    return .group .capturing

/-- A group that is open, with what was read before it. -/
structure GroupFrame where
  /-- The branches before the current one, the last one first. -/
  branches : List Expr
  /-- The parts of the current branch, the last one first. -/
  parts : List Expr
  kind : GroupKind
  /-- Whether the verbose mode was on before the group. -/
  verbose : Bool

/-- The parts of a branch, the last one first, as one expression. -/
def sequenceOf : List Expr → Expr
  | [] => .empty
  | [part] => part
  | parts => .sequence parts.reverse

/-- The branches of a group, the last one first, as one expression. -/
def alternationOf
    (branches parts : List Expr) : Expr :=
  match branches with
  | [] => sequenceOf parts
  | _ => .alternation (sequenceOf parts :: branches).reverse

/-- The parts of a branch, the last one first, with the last one repeated. -/
def repeatLast
    (low : Nat) (high : Option Nat) (greedy : Bool) :
    List Expr → Except Problem (List Expr)
  | [] | .empty :: _ | .flags _ :: _ => .error .missingOperand
  | part :: parts => .ok (.repetition low high greedy part :: parts)

/-- An expression to its end, with the open groups
and what was read of the innermost one. -/
def readFrom : Nat → List GroupFrame → List Expr → List Expr → Scan Expr
  | 0, _, _, _ => throw .unclosedGroup
  | fuel + 1, stack, branches, parts => do
      skipSpace
      match ← peek with
      | none =>
          if stack.isEmpty then return alternationOf branches parts
          else throw .unclosedGroup
      | some '(' =>
          let verbose := (← get).verbose
          match ← readOpening with
          | .switch fs =>
              modify fun s => { s with verbose := fs.state .verbose verbose }
              readFrom fuel stack branches (.flags fs :: parts)
          | .group kind =>
              modify fun s => { s with verbose := kind.flags.state .verbose verbose }
              readFrom fuel (⟨branches, parts, kind, verbose⟩ :: stack) [] []
      | some ')' =>
          match stack with
          | [] => throw .unopenedGroup
          | frame :: stack =>
              modify fun s => { s with verbose := frame.verbose }
              bump
              let group := Expr.group frame.kind (alternationOf branches parts)
              readFrom fuel stack frame.branches (group :: frame.parts)
      | some '|' =>
          bump
          readFrom fuel stack (sequenceOf parts :: branches) []
      | some '[' => readFrom fuel stack branches ((← readClass) :: parts)
      | some '?' | some '*' | some '+' =>
          let low := if (← peek) = some '+' then 1 else 0
          let high := if (← peek) = some '?' then some 1 else none
          bump
          let greedy := !(← bumpIf ['?'])
          readFrom fuel stack branches (← repeatLast low high greedy parts)
      | some '{' =>
          let _ ← repeatLast 0 none true parts
          let (low, high) ← readCount
          let greedy := !(← bumpIf ['?'])
          readFrom fuel stack branches (← repeatLast low high greedy parts)
      | some '\\' => readFrom fuel stack branches ((← readEscape).expr :: parts)
      | some c =>
          bump
          let part :=
            if c = '.' then Expr.dot
            else if c = '^' then Expr.assertion .lineStart
            else if c = '$' then Expr.assertion .lineEnd
            else Expr.literal c false
          readFrom fuel stack branches (part :: parts)

def read
    (text : List Char) : Except Problem Expr :=
  (readFrom (text.length + 1) [] [] []).run' ⟨text, false, []⟩

end Regex
end TriggerScript
