import TriggerScript.Inspection.Vocabulary
import TriggerScript.Outline.Report
import TriggerScript.Outline.Values

/-!
# Outlines of the catalog
-/

namespace TriggerScript
namespace Catalog

open Outline Script

variable {H : Host}

instance : Outlined ContextKind :=
  ⟨fun k => outline k.name⟩

instance : Outlined RegistrationError :=
  ⟨fun e =>
    let kind :=
      match e with
      | .negativePriority _ => "NegativePriority"
      | .unrankablePattern _ _ => "InvalidPatternTree"
    .record [field "error" kind, field "message" e.message]⟩

instance : Outlined CompiledPattern :=
  ⟨fun p => outline (p.source, p.tree.source)⟩

instance {α : Type} : Outlined (Phrase H α) :=
  ⟨fun p =>
    .record
      [field "element" p.element.name, field "patterns" p.patterns,
        field "priority" p.priority, field "addon" p.addon]⟩

instance : Outlined (ExpressionEntry H) :=
  ⟨fun e =>
    .record
      [field "syntax" e.phrase, field "ret" e.returnType, field "single" e.isSingle]⟩

instance : Outlined (EventEntry H) :=
  ⟨fun e => .record [field "syntax" e.phrase, field "contexts" e.contexts]⟩

instance : Outlined TagEntry :=
  ⟨fun t =>
    .record [field "name" t.name, field "priority" t.priority, field "addon" t.addon]⟩

instance : Outlined Addon :=
  ⟨fun a => .record [field "name" a.name, field "events" a.events]⟩

instance : Outlined Timeline :=
  ⟨fun t => outline (Text.lower t.name)⟩

instance : Outlined Usage :=
  ⟨fun u => outline u.name⟩

instance : Outlined (ContextValue H) :=
  ⟨fun v =>
    .record
      [field "context" v.context, field "name" v.name, field "ret" v.returnType,
        field "single" v.isSingle, field "timeline" v.timeline, field "usage" v.usage,
        field "excluded" v.excluded]⟩

def contents
    (c : Catalog H) : Outline :=
  .record
    [field "expressions" c.expressions, field "effects" c.effects,
      field "sections" c.sections, field "events" c.events, field "tags" c.tags,
      field "addons" c.addons, field "context_values" c.contextValues.values,
      field "no_context_values" c.contextValues.values.isEmpty, field "debug" c.inspect]

/-- Everything that a catalog holds as it is inspected. -/
def inspections
    (c : Catalog H) : Outline :=
  let all {α : Type} (name : String) (inspect : α → String) (items : List α) :=
    field name (Inspection.list (items.map inspect))
  .record
    [all "expressions" ExpressionEntry.inspect c.expressions,
      all "effects" Phrase.inspect c.effects, all "sections" Phrase.inspect c.sections,
      all "events" EventEntry.inspect c.events, all "tags" TagEntry.inspect c.tags,
      all "addons" Addon.inspect c.addons,
      all "context_values" ContextValue.inspect c.contextValues.values]

end Catalog
end TriggerScript
