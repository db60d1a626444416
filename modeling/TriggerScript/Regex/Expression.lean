/-!
# Regular expressions

The tree of a regular expression, as it is written.
-/

namespace TriggerScript
namespace Regex

/-- A switch that changes how the rest of a group is read. -/
inductive Flag where
  | ignoreCase
  | multiLine
  | dotMatchesNewLine
  | swapGreed
  | unicode
  | carriageReturn
  | verbose
deriving DecidableEq

/-- Switches turned on and off at one place. -/
structure Flags where
  on : List Flag
  off : List Flag

namespace Flags

def none : Flags := ⟨[], []⟩

def mentions
    (fs : Flags) (f : Flag) : Bool :=
  fs.on.contains f || fs.off.contains f

/-- The state of a switch, if it is named, or else as it was before. -/
def state
    (fs : Flags) (f : Flag) (before : Bool) : Bool :=
  if fs.on.contains f then true else if fs.off.contains f then false else before

end Flags

/-- A class of characters that is named by a Unicode
property, or by a property and its value. -/
structure PropertyClass where
  name : List Char
  value? : Option (List Char)
  negated : Bool

/-- The classes of a backslash and a letter. -/
inductive LetterClass where
  | digit
  | space
  | word
deriving DecidableEq

/-- What is done with two sets of characters. -/
inductive SetOperation where
  | inter
  | diff
  | symmDiff

/-- A set of characters between brackets. -/
inductive CharSet where
  | empty
  | literal (c : Char)
  | range (first last : Char)
  /-- A class named between colons, as the ranges of its members. -/
  | posix (ranges : List (Char × Char)) (negated : Bool)
  | letter (kind : LetterClass) (negated : Bool)
  | property (p : PropertyClass)
  | bracketed (negated : Bool) (inner : CharSet)
  | union (items : List CharSet)
  | combined (operation : SetOperation) (left right : CharSet)

/-- A place at the edge of a word. -/
inductive Boundary where
  | either
  | neither
  | start
  | stop
  | startHalf
  | stopHalf
deriving DecidableEq

/-- A condition on a place in the text. -/
inductive Assertion where
  | lineStart
  | lineEnd
  | textStart
  | textEnd
  | boundary (kind : Boundary)

/-- What the parentheses of a group do. -/
inductive GroupKind where
  /-- They keep what the group matches. -/
  | capturing
  /-- They turn switches for the group. -/
  | plain (fs : Flags)

def GroupKind.flags : GroupKind → Flags
  | .capturing => Flags.none
  | .plain fs => fs

/-- A regular expression. -/
inductive Expr where
  | empty
  | flags (fs : Flags)
  /-- One character; `asByte` if it is written as two hexadecimal digits. -/
  | literal (c : Char) (asByte : Bool)
  | dot
  | assertion (kind : Assertion)
  | letter (kind : LetterClass) (negated : Bool)
  | property (p : PropertyClass)
  | bracketed (negated : Bool) (set : CharSet)
  /-- At least `low` and, if `high` is given, at most `high` times the inner expression,
  of which a greedy one takes as many as possible. -/
  | repetition (low : Nat) (high : Option Nat) (greedy : Bool) (inner : Expr)
  | group (kind : GroupKind) (inner : Expr)
  | alternation (branches : List Expr)
  | sequence (parts : List Expr)

/-- Why a text is no regular expression. -/
inductive Problem where
  | unclosedGroup
  | unopenedGroup
  | unclosedClass
  | lookAround
  | backReference
  | missingOperand
  | badRepetition
  | badFlags
  | badGroupName
  | badEscape
  | badClassItem
  | badRange
  | unknownProperty
  | notUtf8
  | tooDeep
  | tooLarge

def Problem.text : Problem → String
  | .unclosedGroup => "unclosed group"
  | .unopenedGroup => "unopened group"
  | .unclosedClass => "unclosed character class"
  | .lookAround => "look-around is not supported"
  | .backReference => "backreferences are not supported"
  | .missingOperand => "repetition operator missing expression"
  | .badRepetition => "invalid repetition count"
  | .badFlags => "invalid flags"
  | .badGroupName => "invalid capture group name"
  | .badEscape => "invalid escape sequence"
  | .badClassItem => "invalid item in character class"
  | .badRange => "invalid character class range"
  | .unknownProperty => "Unicode property not found"
  | .notUtf8 => "pattern can match invalid UTF-8"
  | .tooDeep => "nesting too deep"
  | .tooLarge => "compiled expression too large"

end Regex
end TriggerScript
