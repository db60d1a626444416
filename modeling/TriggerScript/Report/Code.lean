/-!
# Error codes

Every diagnostic has a code. A code belongs to the phase that reports it: compiling a
pattern, registering declarations, or initializing the elements of a script.
-/

namespace TriggerScript
namespace Report

/-- What a diagnostic is about. -/
inductive Code where
  /-- An opening `[`, `(`, `<` or `%` that nothing closes. -/
  | unclosedGroup
  /-- A closing delimiter or a bar with no group around it. -/
  | unmatchedCloser
  /-- A capture that is not a regular expression. -/
  | invalidCapture
  /-- A slot without a type name. -/
  | emptySlot
  /-- An escape character at the end of a pattern. -/
  | danglingEscape
  /-- A slot with modifiers that contradict each other or stand in a wrong place. -/
  | invalidModifier
  /-- A declaration that names an unknown type. -/
  | unknownType
  /-- A type name that is taken. -/
  | duplicateType
  /-- A second converter for the same pair of types. -/
  | duplicateConverter
  /-- A second comparator for the same pair of types. -/
  | duplicateComparator
  /-- A comparator between any two values. -/
  | universalComparator
  /-- A second context value for the same context, name and time. -/
  | duplicateContextValue
  /-- A declaration none of whose patterns can be used. -/
  | noPattern
  /-- A slot that names an unknown type. -/
  | unknownSlotType
  /-- A `continue` with no loop around it. -/
  | continueOutsideLoop
  /-- An element that refuses its initialization. -/
  | rejectedElement
  /-- The end of a section where none is open. -/
  | unopenedSection
deriving DecidableEq

/-- The phase that reports a code. -/
inductive Phase where
  | pattern
  | registration
  | semantic
deriving DecidableEq

namespace Code

def all : List Code :=
  [.unclosedGroup, .unmatchedCloser, .invalidCapture, .emptySlot, .danglingEscape,
    .invalidModifier, .unknownType, .duplicateType, .duplicateConverter,
    .duplicateComparator, .universalComparator, .duplicateContextValue,
    .noPattern, .unknownSlotType, .continueOutsideLoop,
    .rejectedElement, .unopenedSection]

def phase : Code → Phase
  | .unclosedGroup | .unmatchedCloser | .invalidCapture
  | .emptySlot | .danglingEscape | .invalidModifier => .pattern
  | .unknownType | .duplicateType | .duplicateConverter | .duplicateComparator
  | .universalComparator | .duplicateContextValue | .noPattern | .unknownSlotType =>
      .registration
  | .continueOutsideLoop | .rejectedElement | .unopenedSection => .semantic

/-- The name shown to users; its first digit tells the phase. -/
def name : Code → String
  | .unclosedGroup => "E1001"
  | .unmatchedCloser => "E1002"
  | .invalidCapture => "E1003"
  | .emptySlot => "E1004"
  | .danglingEscape => "E1005"
  | .invalidModifier => "E1006"
  | .unknownType => "E2001"
  | .duplicateType => "E2002"
  | .duplicateConverter => "E2003"
  | .duplicateComparator => "E2004"
  | .universalComparator => "E2005"
  | .duplicateContextValue => "E2006"
  | .noPattern => "E2007"
  | .unknownSlotType => "E2008"
  | .continueOutsideLoop => "E3001"
  | .rejectedElement => "E3002"
  | .unopenedSection => "E3003"

/-- The code with a given name. -/
def ofName?
    (name : String) : Option Code :=
  all.find? fun code => code.name == name

def description : Code → String
  | .unclosedGroup => "unclosed group in pattern"
  | .unmatchedCloser => "unmatched closing delimiter in pattern"
  | .invalidCapture => "invalid regex in pattern"
  | .emptySlot => "expression slot names no type"
  | .danglingEscape => "dangling escape at end of pattern"
  | .invalidModifier => "invalid expression slot modifier"
  | .unknownType => "unknown type"
  | .duplicateType => "duplicate type"
  | .duplicateConverter => "duplicate converter"
  | .duplicateComparator => "duplicate comparator"
  | .universalComparator => "comparator between universal types"
  | .duplicateContextValue => "duplicate context value"
  | .noPattern => "no valid pattern"
  | .unknownSlotType => "unknown type in expression slot"
  | .continueOutsideLoop => "`continue` outside of a loop"
  | .rejectedElement => "syntax element failed to initialize"
  | .unopenedSection => "section closed without being opened"

end Code

end Report
end TriggerScript
