import TriggerScript.Pattern.Rank
import TriggerScript.Pattern.Reading
import TriggerScript.Script.Element

/-!
# Entries of the catalog

An entry is a published piece of vocabulary: a blueprint of an element with the compiled
patterns in which it may be written. Entries of one category are tried in the order of
their priorities, the highest first, and in the order of their publication among equals.
-/

namespace TriggerScript
namespace Catalog

open Script

/-- A pattern with its tree. -/
structure CompiledPattern where
  source : String
  tree : Pattern.Tree
deriving DecidableEq

/-- A blueprint with the name of its element. -/
structure Element (H : Host) (α : Type) where
  name : String
  blueprint : Blueprint H α

/-- A published element with its patterns. -/
structure Phrase (H : Host) (α : Type) where
  element : Element H α
  patterns : List CompiledPattern
  priority : Nat
  /-- The addon that it comes from. -/
  addon : String

/-- A published expression. -/
structure ExpressionEntry (H : Host) where
  phrase : Phrase H (Expression H)
  returnType : TypeId
  isSingle : Bool

/-- A published event. -/
structure EventEntry (H : Host) where
  phrase : Phrase H (Event H)
  /-- The kinds of contexts with which the event fires. -/
  contexts : List ContextKind

/-- Whether an event fires with contexts of a kind. -/
def EventEntry.handles {H : Host}
    (e : EventEntry H) (kind : ContextKind) : Bool :=
  e.contexts.contains kind

/-- A published formatting tag. -/
structure TagEntry where
  name : String
  blueprint : TagBlueprint
  priority : Nat
  addon : String

/-- Something with a priority. -/
class Ranked (α : Type) where
  rank : α → Nat

instance {H : Host} {α : Type} : Ranked (Phrase H α) :=
  ⟨Phrase.priority⟩

instance {H : Host} : Ranked (ExpressionEntry H) :=
  ⟨fun e => e.phrase.priority⟩

instance {H : Host} : Ranked (EventEntry H) :=
  ⟨fun e => e.phrase.priority⟩

instance : Ranked TagEntry :=
  ⟨TagEntry.priority⟩

/-- The entries by descending priority; entries of one priority keep their order. -/
def sortByRank {α : Type} [Ranked α]
    (entries : List α) : List α :=
  entries.mergeSort fun a b => Ranked.rank b ≤ Ranked.rank a

end Catalog
end TriggerScript
