import TriggerScript.TypeSystem

/-!
# What a script fires with

A script fires with a context of some kind. What a context carries is up to the host that
embeds the library, and so is the kind of state that its own sections keep between
visits.
-/

namespace TriggerScript
namespace Script

/-- What a host brings along: the payload of its
contexts, and the state of its sections. -/
structure Host where
  Payload : Type
  Memory : Type

/-- A kind of contexts. Kinds are told apart by their keys; the name is for users. -/
structure ContextKind where
  key : Nat
  name : String

namespace ContextKind

/-- Kinds are the same if their keys are. -/
instance : BEq ContextKind :=
  ⟨fun a b => a.key == b.key⟩

end ContextKind

/-- What a script fires with. -/
structure Context (H : Host) where
  /-- The key of the kind of the context. -/
  key : Nat
  name : String
  payload : H.Payload

def Context.kind {H : Host}
    (c : Context H) : ContextKind :=
  ⟨c.key, c.name⟩

/-- What elements of a running script can read and change outside of the script. -/
structure World (H : Host) where
  context : Context H
  types : TypeSystem

end Script
end TriggerScript
