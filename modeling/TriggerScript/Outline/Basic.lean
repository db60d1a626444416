/-!
# Outlines

An outline is a structured view of a piece of data, for tools that show it or keep it:
flags, numbers and texts, lists of these, and records with named fields.
-/

namespace TriggerScript

/-- A structured view of a piece of data. -/
inductive Outline where
  | missing
  | flag (b : Bool)
  | number (n : Int)
  | text (s : String)
  | list (items : List Outline)
  | record (fields : List (String × Outline))

/-- Something that has an outline. -/
class Outlined (α : Type) where
  outline : α → Outline

export Outlined (outline)

namespace Outline

instance : Outlined Outline :=
  ⟨id⟩

instance : Outlined Bool :=
  ⟨.flag⟩

instance : Outlined Int :=
  ⟨.number⟩

instance : Outlined Nat :=
  ⟨fun n => .number n⟩

instance : Outlined String :=
  ⟨.text⟩

instance {α : Type} [Outlined α] : Outlined (List α) :=
  ⟨fun items => .list (items.map outline)⟩

instance {α β : Type} [Outlined α] [Outlined β] : Outlined (α × β) :=
  ⟨fun p => .list [outline p.1, outline p.2]⟩

/-- What may be missing is outlined by itself where it is there. -/
instance {α : Type} [Outlined α] : Outlined (Option α) :=
  ⟨fun a => (a.map outline).getD .missing⟩

def field {α : Type} [Outlined α]
    (name : String) (a : α) : String × Outline :=
  (name, outline a)

def extend
    (o : Outline) (more : List (String × Outline)) : Outline :=
  match o with
  | .record fields => .record (fields ++ more)
  | _ => .record more

end Outline

end TriggerScript
