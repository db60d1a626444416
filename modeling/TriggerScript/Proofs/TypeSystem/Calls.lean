import TriggerScript.Proofs.Comparison.Calls
import TriggerScript.Proofs.TypeSystem.Growth

/-!
# What declared functions are called with

Comparing or ordering two values never hands an operand to a declared function that the
function was not declared for, however the comparator was put together and however old it
is: an answer that is remembered was found among fewer types, and whatever stands for a
type goes on doing so.
-/

namespace TriggerScript
namespace TypeSystem

open Typing Conversion Comparison

/-- Compare two values that may be missing, and keep a record of the calls. -/
def compareRecorded
    (s : TypeSystem) : Option Value → Option Value → Recorded Relation
  | some a, some b =>
      match (s.comparator a.typeId b.typeId).1 with
      | some c => c.applyRecorded a b
      | none => return .notEqual
  | _, _ => return .notEqual

/-- The order of two values, with a record of the calls.
A comparator that does not order is not even applied. -/
def orderingRecorded
    (s : TypeSystem) (a b : Value) : Recorded (Option Ordering) :=
  match (s.comparator a.typeId b.typeId).1 with
  | some c =>
      if c.supportsOrdering then
        return (← c.applyRecorded a b).toOrdering
      else
        return none
  | none => return none

theorem compareRecorded_result
    (s : TypeSystem) (a b : Option Value) :
    (s.compareRecorded a b).result = (s.compare a b).1 := by
  cases a with
  | none =>
      rfl
  | some a =>
      cases b with
      | none =>
          rfl
      | some b =>
          rcases h : s.comparator a.typeId b.typeId with ⟨found, s'⟩
          cases found <;> simp [compareRecorded, compare, h]

theorem orderingRecorded_result
    (s : TypeSystem) (a b : Value) :
    (s.orderingRecorded a b).result = (s.ordering a b).1 := by
  rcases h : s.comparator a.typeId b.typeId with ⟨found, s'⟩
  cases found with
  | none =>
      simp [orderingRecorded, ordering, h]
  | some c =>
      cases hordering : c.supportsOrdering <;>
        simp [orderingRecorded, ordering, h, hordering]

section Calls

variable {s : TypeSystem} {P : Call → Prop}

/-- Comparing two values calls what their comparator calls. -/
theorem forall_calls_compareRecorded
    (h : ∀ a b c, (s.comparator a.typeId b.typeId).1 = some c →
      ∀ call ∈ (c.applyRecorded a b).calls, P call)
    (a b : Option Value) :
    ∀ call ∈ (s.compareRecorded a b).calls, P call := by
  cases a with
  | none =>
      exact Recorded.forall_calls_pure _
  | some a =>
      cases b with
      | none =>
          exact Recorded.forall_calls_pure _
      | some b =>
          simp only [compareRecorded]
          split
          · rename_i c hfound
            exact h a b c hfound
          · exact Recorded.forall_calls_pure _

theorem forall_calls_orderingRecorded
    (h : ∀ a b c, (s.comparator a.typeId b.typeId).1 = some c →
      ∀ call ∈ (c.applyRecorded a b).calls, P call)
    (a b : Value) :
    ∀ call ∈ (s.orderingRecorded a b).calls, P call := by
  unfold orderingRecorded
  split
  · rename_i c hfound
    split
    · exact Recorded.forall_calls_bind (h a b c hfound) (Recorded.forall_calls_pure _)
    · exact Recorded.forall_calls_pure _
  · exact Recorded.forall_calls_pure _

end Calls

/-- The answer for two types accepts operands of these
types, though it may have been found among fewer types. -/
theorem accepts_of_comparator
    {j : Journal} {a b : TypeId} {c : Comparator}
    (h : ((after j).comparator a b).1 = some c) :
    (after j).sources.Accepts c a b := by
  rw [comparator_eq_resolve_origin] at h
  obtain ⟨_, hextends, hsame⟩ := sources_eq_origin_withTypes j a b
  rw [hsame]
  exact (Sources.accepts_of_resolve h).withTypes hextends

theorem proper_applyRecorded
    {j : Journal} {a b : Value} {c : Comparator}
    (h : ((after j).comparator a.typeId b.typeId).1 = some c) :
    (c.applyRecorded a b).Proper (after j).sources :=
  (accepts_of_comparator h).proper (coupled_after j)

theorem proper_compareRecorded
    (j : Journal) (a b : Option Value) :
    ((after j).compareRecorded a b).Proper (after j).sources :=
  forall_calls_compareRecorded (fun _ _ _ => proper_applyRecorded) a b

theorem proper_orderingRecorded
    (j : Journal) (a b : Value) :
    ((after j).orderingRecorded a b).Proper (after j).sources :=
  forall_calls_orderingRecorded (fun _ _ _ => proper_applyRecorded) a b

/-- In every type system, comparing two values and ordering them only calls functions of
registered comparators and of declared converters, parts of chains included, and only
with operands whose types stand in for the types that the functions were declared for. -/
theorem calls_of_compare_and_ordering
    (j : Journal) :
    (∀ a b : Option Value,
        ((after j).compareRecorded a b).result = ((after j).compare a b).1 ∧
          ∀ call ∈ ((after j).compareRecorded a b).calls,
            call.Proper (after j).sources) ∧
      ∀ a b : Value,
        ((after j).orderingRecorded a b).result = ((after j).ordering a b).1 ∧
          ∀ call ∈ ((after j).orderingRecorded a b).calls,
            call.Proper (after j).sources := by
  refine ⟨?_, ?_⟩
  · intro a b
    exact ⟨compareRecorded_result (after j) a b, proper_compareRecorded j a b⟩
  · intro a b
    exact ⟨orderingRecorded_result (after j) a b, proper_orderingRecorded j a b⟩

end TypeSystem
end TriggerScript
