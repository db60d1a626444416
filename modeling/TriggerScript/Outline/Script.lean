import TriggerScript.Inspection.Vocabulary
import TriggerScript.Outline.Values

/-!
# Outlines of scripts
-/

namespace TriggerScript
namespace Script

open Outline

variable {H : Host}

instance : Outlined StatementId :=
  ⟨fun id => outline id.raw⟩

instance : Outlined OpenSection :=
  ⟨fun s => outline [outline s.id, outline s.isLoop, outline s.description]⟩

instance : Outlined ParserState :=
  ⟨fun s =>
    .record
      [field "depth" s.depth, field "open" s.sections,
        field "loop" (s.innermostLoop?.map OpenSection.id)]⟩

namespace Trigger

def neighbours
    (t : Trigger H) (id : StatementId) : List StatementId :=
  (t.successor? id).toList ++ (t.parent? id).toList

/-- The statements that are reached from given ones, the given ones included. A statement
leads to at most two others, which bounds the rounds. -/
def reached
    (t : Trigger H) : Nat → List StatementId → List StatementId → List StatementId
  | 0, found, _ => found
  | _ + 1, found, [] => found
  | fuel + 1, found, id :: pending =>
      if found.contains id then
        t.reached fuel found pending
      else
        t.reached fuel (id :: found) (t.neighbours id ++ pending)

/-- The links of all statements that are reached
from given ones, ordered by their identities. -/
def links
    (t : Trigger H) (roots : List StatementId) : Outline :=
  let found := t.reached (roots.length + 3 * t.size + 1) [] roots
  outline ((found.mergeSort fun a b => a.raw ≤ b.raw).map fun id =>
    [outline id, outline (t.successor? id), outline (t.parent? id),
      outline (t.isLoop id)])

/-- A trigger with the links of its first statement and of given ones. -/
def outlined
    (t : Trigger H) (roots : List StatementId) : Outline :=
  .record
    [field "len" t.size, field "empty" t.nodes.isEmpty, field "first" t.first,
      field "event" (t.event.map fun e => e.describe false),
      field "links" (t.links (t.first.toList ++ roots)), field "describe" t.describe,
      field "debug" t.inspect]

end Trigger

def Invocation.outlined [Outlined H.Memory]
    (v : Invocation H) : Outline :=
  .record
    [field "active" v.activeIds, field "is_active" (v.activeIds.map v.isActive),
      field "loop" v.innermostLoop?, field "value" v.loopValue?,
      field "state" (v.innermostLoop?.bind v.memory.custom?)]

end Script
end TriggerScript
