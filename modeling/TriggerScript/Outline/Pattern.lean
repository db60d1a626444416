import TriggerScript.Outline.Basic
import TriggerScript.Pattern.Rank
import TriggerScript.Pattern.Writing

/-!
# Outlines of patterns

A tree is outlined as a record with one field, which names the shape of the tree.
-/

namespace TriggerScript
namespace Pattern

open Outline

instance : Outlined Acceptance :=
  ⟨fun
    | .both => .text "both"
    | .expressionsOnly => .text "expressions"
    | .literalsOnly => .text "literals"⟩

instance : Outlined Slot :=
  ⟨fun s =>
    .record
      [field "types" s.types, field "acceptance" s.acceptance,
        field "conditional" s.conditional, field "nullable" s.nullable]⟩

namespace Tree

mutual

def shape : Tree → Outline
  | .text s => .record [field "text" s]
  | .optional inner => .record [field "optional" inner.shape]
  | .choice alternatives => .record [field "choice" (shapesOfAlternatives alternatives)]
  | .capture body => .record [field "regex" body]
  | .slot s => .record [field "slot" s]
  | .compound children => .record [field "compound" (shapes children)]

def shapesOfAlternatives : List (Marked Tree) → List Outline
  | [] => []
  | ⟨mark, t⟩ :: as => outline [outline mark.toNat, t.shape] :: shapesOfAlternatives as

def shapes : List Tree → List Outline
  | [] => []
  | t :: ts => t.shape :: shapes ts

end

instance : Outlined Tree :=
  ⟨shape⟩

end Tree

end Pattern
end TriggerScript
