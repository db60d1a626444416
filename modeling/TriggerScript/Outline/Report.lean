import TriggerScript.Outline.Basic
import TriggerScript.Report.Queue

/-!
# Outlines of reports

Diagnostics with everything that follows from them, such as the text shown to users.
-/

namespace TriggerScript
namespace Report

open Outline

instance : Outlined Span :=
  ⟨fun s => outline (s.start, s.stop)⟩

instance : Outlined Code :=
  ⟨fun c => outline c.name⟩

instance : Outlined Severity :=
  ⟨fun s => outline s.name⟩

instance : Outlined Label :=
  ⟨fun l => outline [outline l.span, outline l.text, outline l.culprit]⟩

instance : Outlined Diagnostic :=
  ⟨fun d =>
    .record
      [field "code" d.code, field "severity" d.severity, field "message" d.message,
        field "headline" d.headline, field "source" d.source, field "labels" d.labels,
        field "notes" d.notes, field "is_error" d.isError, field "primary" d.primarySpan,
        field "snippet" d.primarySnippet, field "text" d.text]⟩

def Span.outlined
    (s : Span) : Outline :=
  .record
    [field "span" s, field "len" s.length, field "empty" s.isEmpty, field "debug" s.text]

def Code.outlined
    (c : Code) : Outline :=
  .record
    [field "name" c.name, field "description" c.description,
      field "pattern" (c.phase == .pattern),
      field "registration" (c.phase == .registration),
      field "semantic" (c.phase == .semantic)]

def Queue.outlined
    (q : Queue) : Outline :=
  .record
    [field "errors" q.errorCount, field "has_errors" q.hasErrors, field "len" q.size,
      field "empty" q.isEmpty, field "kept" (q.kept.map Diagnostic.headline)]

end Report
end TriggerScript
