import TriggerScript.Report.Code
import TriggerScript.Report.Span
import TriggerScript.Text.Bytes

/-!
# Diagnostics

A diagnostic is a problem from which the library recovers: it drops what the problem is
in and goes on. It may carry the text that it is about; its labels then underline parts
of that text.
-/

namespace TriggerScript
namespace Report

/-- Whether something is dropped because of a diagnostic. -/
inductive Severity where
  | error
  | warning
deriving DecidableEq

def Severity.name : Severity → String
  | .error => "error"
  | .warning => "warning"

/-- A range of the text of a diagnostic, with a remark. -/
structure Label where
  span : Span
  text : String
  /-- Whether the range is at fault; if not, it only explains the fault. -/
  culprit : Bool
deriving DecidableEq

namespace Label

/-- The line below the text that underlines the range. -/
def underline
    (l : Label) : String :=
  let mark := if l.culprit then '^' else '-'
  String.ofList (List.replicate l.span.start ' ')
    ++ String.ofList (List.replicate (max l.span.length 1) mark)
    ++ " " ++ l.text

end Label

/-- A problem from which the library recovers. -/
structure Diagnostic where
  code : Code
  severity : Severity
  /-- Where it is empty, the description of the code stands for it. -/
  message : String
  /-- The text that the labels point into. -/
  source : Option String
  labels : List Label
  notes : List String
deriving DecidableEq

namespace Diagnostic

def error
    (code : Code) : Diagnostic :=
  ⟨code, .error, "", none, [], []⟩

def warning
    (code : Code) : Diagnostic :=
  ⟨code, .warning, "", none, [], []⟩

def withMessage
    (d : Diagnostic) (message : String) : Diagnostic :=
  { d with message := message }

def withSource
    (d : Diagnostic) (source : String) : Diagnostic :=
  { d with source := some source }

def withLabel
    (d : Diagnostic) (span : Span) (text : String) : Diagnostic :=
  { d with labels := d.labels ++ [⟨span, text, true⟩] }

/-- The diagnostic with one more range that explains the fault. -/
def withContextLabel
    (d : Diagnostic) (span : Span) (text : String) : Diagnostic :=
  { d with labels := d.labels ++ [⟨span, text, false⟩] }

def withNote
    (d : Diagnostic) (note : String) : Diagnostic :=
  { d with notes := d.notes ++ [note] }

def isError
    (d : Diagnostic) : Bool :=
  d.severity == .error

/-- The message, or the description of the code where there is none. -/
def headline
    (d : Diagnostic) : String :=
  if d.message.isEmpty then d.code.description else d.message

def primarySpan
    (d : Diagnostic) : Option Span :=
  (d.labels.find? Label.culprit).map Label.span

/-- The text of the first range at fault, if the
range lies between characters of the text. -/
def primarySnippet
    (d : Diagnostic) : Option String :=
  match d.primarySpan, d.source with
  | some span, some source =>
      (Text.sliceBytes? span.start span.stop source.toList).map String.ofList
  | _, _ => none

/-- The lines that quote the text and underline its labels. -/
def quotation
    (d : Diagnostic) : String :=
  match d.source with
  | none => ""
  | some source =>
      "\n  --> `" ++ source ++ "`"
        ++ String.join (d.labels.map fun l => "\n       " ++ l.underline)

def text
    (d : Diagnostic) : String :=
  d.severity.name ++ "[" ++ d.code.name ++ "]: " ++ d.headline
    ++ d.quotation
    ++ String.join (d.notes.map fun note => "\n  = note: " ++ note)

end Diagnostic

end Report
end TriggerScript
