import TriggerScript.Text.Blank

/-!
# Pattern trees

A pattern describes the texts in which a piece of vocabulary may be written: words,
optional parts, choices, captures that a regular expression describes, and slots for
expressions of given types.
-/

namespace TriggerScript
namespace Pattern

/-- What may fill a slot. -/
inductive Acceptance where
  | both
  | expressionsOnly
  | literalsOnly
deriving DecidableEq

/-- A place in a pattern for an expression. -/
structure Slot where
  /-- The names of the accepted types, in the singular or in the plural. -/
  types : List String
  acceptance : Acceptance
  /-- Whether a condition may fill the slot. -/
  conditional : Bool
  /-- Whether the slot may be left without a value. -/
  nullable : Bool
deriving DecidableEq

/-- Something with the mark that is reported when it matches. -/
structure Marked (α : Type) where
  mark : UInt32
  body : α
deriving DecidableEq

/-- The tree of a pattern. -/
inductive Tree where
  | text (s : String)
  | optional (inner : Tree)
  | choice (alternatives : List (Marked Tree))
  /-- A part of the text that a regular expression describes. -/
  | capture (body : String)
  | slot (s : Slot)
  | compound (children : List Tree)

namespace Tree

mutual

def same : Tree → Tree → Bool
  | .text s, .text t => s == t
  | .optional s, .optional t => s.same t
  | .choice as, .choice bs => sameAlternatives as bs
  | .capture s, .capture t => s == t
  | .slot s, .slot t => s == t
  | .compound ss, .compound ts => sameAll ss ts
  | _, _ => false

def sameAlternatives : List (Marked Tree) → List (Marked Tree) → Bool
  | [], [] => true
  | ⟨m, s⟩ :: as, ⟨n, t⟩ :: bs => m == n && s.same t && sameAlternatives as bs
  | _, _ => false

def sameAll : List Tree → List Tree → Bool
  | [], [] => true
  | s :: ss, t :: ts => s.same t && sameAll ss ts
  | _, _ => false

end

mutual

theorem same_iff :
    (s t : Tree) → (s.same t = true ↔ s = t)
  | .text _, t => by
      cases t <;> simp [same]
  | .optional s, t => by
      cases t <;> simp [same, same_iff s]
  | .choice as, t => by
      cases t <;> simp [same, sameAlternatives_iff as]
  | .capture _, t => by
      cases t <;> simp [same]
  | .slot _, t => by
      cases t <;> simp [same]
  | .compound ss, t => by
      cases t <;> simp [same, sameAll_iff ss]

theorem sameAlternatives_iff :
    (as bs : List (Marked Tree)) → (sameAlternatives as bs = true ↔ as = bs)
  | [], bs => by
      cases bs <;> simp [sameAlternatives]
  | ⟨m, s⟩ :: as, [] => by
      simp [sameAlternatives]
  | ⟨m, s⟩ :: as, ⟨n, t⟩ :: bs => by
      simp [sameAlternatives, same_iff s, sameAlternatives_iff as]

theorem sameAll_iff :
    (ss ts : List Tree) → (sameAll ss ts = true ↔ ss = ts)
  | [], ts => by
      cases ts <;> simp [sameAll]
  | s :: ss, ts => by
      cases ts <;> simp [sameAll, same_iff s, sameAll_iff ss]

end

instance : DecidableEq Tree :=
  fun s t => decidable_of_iff (s.same t = true) (same_iff s t)

/-- Whether the tree is a text of nothing but blanks. -/
def isBlankText : Tree → Bool
  | .text s => s.toList.all Text.isBlank
  | _ => false

def isCapture : Tree → Bool
  | .capture _ => true
  | _ => false

mutual

/-- The slots of a tree, from left to right. -/
def slots : Tree → List Slot
  | .text _ => []
  | .optional inner => inner.slots
  | .choice alternatives => slotsOfAlternatives alternatives
  | .capture _ => []
  | .slot s => [s]
  | .compound children => slotsOfAll children

def slotsOfAlternatives : List (Marked Tree) → List Slot
  | [] => []
  | ⟨_, t⟩ :: as => t.slots ++ slotsOfAlternatives as

/-- The slots of several trees, from left to right. -/
def slotsOfAll : List Tree → List Slot
  | [] => []
  | t :: ts => t.slots ++ slotsOfAll ts

end

end Tree

end Pattern
end TriggerScript
