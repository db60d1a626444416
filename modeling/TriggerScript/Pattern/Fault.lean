import TriggerScript.Report.Diagnostic

/-!
# Faults in patterns

What can be wrong with the text of a pattern, and where. Every place is given in bytes
from the start of the text.
-/

namespace TriggerScript
namespace Pattern

open Report

/-- A fault in the text of a pattern. -/
inductive Fault where
  /-- A group, capture or slot that is never closed;
  the place is that of its opening character. -/
  | unclosed (opener closer : Char) (offset : Nat)
  /-- A closing character or a bar with no group around it. -/
  | unmatched (c : Char) (offset : Nat)
  /-- An escape character with nothing after it. -/
  | danglingEscape (offset : Nat)
  /-- A capture that is not an accepted regular expression. -/
  | badCapture (body reason : String) (start stop : Nat)
  /-- A slot with an empty type name. -/
  | emptySlot (start stop : Nat)
  /-- A slot for expressions only and for literals only. -/
  | conflictingModifiers (start stop : Nat)
  /-- A type name in a slot with a character that does not belong there. -/
  | badTypeName (c : Char) (name : String) (start stop : Nat)
deriving DecidableEq

namespace Fault

/-- The diagnostic of a fault, without the text of the pattern. -/
def explain : Fault → Diagnostic
  | .unclosed opener closer offset =>
      ((Diagnostic.error .unclosedGroup).withMessage
          ("unclosed `" ++ opener.toString ++ "`")).withLabel
        (Span.ofRange offset (offset + opener.utf8Size))
        ("expected a matching `" ++ closer.toString ++ "`")
  | .unmatched c offset =>
      ((Diagnostic.error .unmatchedCloser).withMessage
          (if c = '|' then "`|` outside of a choice group"
            else "unmatched closing `" ++ c.toString ++ "`")).withLabel
        (Span.ofRange offset (offset + 1)) "no group to close here"
  | .danglingEscape offset =>
      ((Diagnostic.error .danglingEscape).withMessage
          "the pattern ends with an escape character").withLabel
        (Span.ofRange offset (offset + 1)) "nothing to escape"
  | .badCapture body reason start stop =>
      (((Diagnostic.error .invalidCapture).withMessage
          ("`" ++ body ++ "` is not a valid regular expression")).withLabel
        (Span.ofRange start stop) "in this capture").withNote reason
  | .emptySlot start stop =>
      ((Diagnostic.error .emptySlot).withMessage
        "expression slot names no type").withLabel
        (Span.ofRange start stop) "expected a type name"
  | .conflictingModifiers start stop =>
      ((Diagnostic.error .invalidModifier).withMessage
          "an expression slot cannot take only literals and only expressions").withLabel
        (Span.ofRange start stop) "`~` and `*` both given"
  | .badTypeName c name start stop =>
      (((Diagnostic.error .invalidModifier).withMessage
          ("unexpected `" ++ c.toString ++ "` in expression slot `" ++
            name ++ "`")).withLabel
        (Span.ofRange start stop) "modifiers go before the first type").withNote
          "valid modifiers are `-`, `~`, `*` and `=`"

/-- The diagnostic of a fault in a given pattern. -/
def diagnostic
    (f : Fault) (source : String) : Diagnostic :=
  f.explain.withSource source

end Fault

end Pattern
end TriggerScript
