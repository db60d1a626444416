import TriggerScript.Catalog.Basic
import TriggerScript.Inspection.Values
import TriggerScript.Script.Trigger

/-!
# Inspecting the catalog and scripts
-/

namespace TriggerScript

open Inspection

namespace Script

variable {H : Host}

def ContextKind.inspect
    (k : ContextKind) : String :=
  call "ContextKind" k.name

def Trigger.inspect
    (t : Trigger H) : String :=
  record "Trigger" [("statements", toString t.size), ("has_event", bool t.event.isSome)]

end Script

namespace Catalog

open Script

variable {H : Host}

def Registration.inspect
    (r : Registration H) : String :=
  partialRecord "SyntaxRegistration"
    [("addon", quoted r.addon), ("types", toString r.types.length),
      ("expressions", toString r.expressions.length),
      ("effects", toString r.effects.length), ("sections", toString r.sections.length),
      ("events", toString r.events.length)]

def Phrase.inspect {α : Type}
    (p : Phrase H α) : String :=
  record "SyntaxInfo"
    [("element", quoted p.element.name),
      ("patterns", list (p.patterns.map fun c => quoted c.source)),
      ("priority", toString p.priority), ("addon", quoted p.addon)]

def ExpressionEntry.inspect
    (e : ExpressionEntry H) : String :=
  record "ExpressionInfo"
    [("syntax", e.phrase.inspect), ("return_type", e.returnType.inspect),
      ("is_single", bool e.isSingle)]

def EventEntry.inspect
    (e : EventEntry H) : String :=
  record "EventInfo"
    [("syntax", e.phrase.inspect),
      ("handled_contexts", list (e.contexts.map ContextKind.inspect))]

def TagEntry.inspect
    (t : TagEntry) : String :=
  partialRecord "TagInfo" [("name", quoted t.name), ("priority", toString t.priority)]

def Addon.inspect
    (a : Addon) : String :=
  record "AddonInfo"
    [("name", quoted a.name), ("handled_events", list (a.events.map quoted))]

/-- The name of a way to write a context value. -/
def Usage.inspect : Usage → String
  | .expressionOnly => "ExpressionOnly"
  | .standaloneOnly => "StandaloneOnly"
  | .both => "Both"

def ContextValue.inspect
    (v : ContextValue H) : String :=
  partialRecord "ContextValue"
    [("context", v.context.inspect), ("name", quoted v.name),
      ("return_type", v.returnType.inspect), ("timeline", v.timeline.name),
      ("usage", v.usage.inspect)]

def inspect
    (c : Catalog H) : String :=
  call "Catalog"
    (record "CatalogState"
      [("types", toString c.types.types.size),
        ("expressions", toString c.expressions.length),
        ("effects", toString c.effects.length), ("sections", toString c.sections.length),
        ("events", toString c.events.length),
        ("context_values", toString c.contextValues.values.length),
        ("tags", toString c.tags.length)])

end Catalog

end TriggerScript
