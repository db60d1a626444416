import TriggerScript.Proofs.Comparison.Calls
import TriggerScript.Proofs.Conversion.Permission

/-!
# Conversions within comparators

A search puts no conversion into a comparator but those that it has found for a
comparison, so that a comparator calls no converter that must not be used to compare
values. Nor does the search depend on what such converters do: silencing them changes no
answer.
-/

namespace TriggerScript
namespace Comparison

open Conversion (Converter DeclaredConverter)

/-- The converters of a comparator. -/
def Comparator.conversions : Comparator → List Converter
  | .registered _ => []
  | .equality => []
  | .inverse base => base.conversions
  | .converted first base second => first.toList ++ second.toList ++ base.conversions

/-- If a converter is called, it may be used to compare values. -/
def Call.Permitted : Call → Prop
  | .compare _ _ _ => True
  | .convert c _ => c.options.noComparison = false

section Calls

variable {P : Call → Prop}

theorem forall_calls_convertRecorded
    {c : Converter}
    (h : ∀ part ∈ c.parts, ∀ v, P (.convert part v))
    (v : Value) :
    ∀ call ∈ (convertRecorded c v).calls, P call := by
  have hpart {part : DeclaredConverter} (hmem : part ∈ c.parts) (v : Value) :
      ∀ call ∈ (convertDeclaredRecorded part v).calls, P call := by
    intro call hcall
    rw [List.mem_singleton.1 hcall]
    exact h part hmem v
  cases c with
  | declared c =>
      exact hpart List.mem_cons_self v
  | chained first second =>
      refine Recorded.forall_calls_bind (hpart List.mem_cons_self v) ?_
      split
      · rename_i w _
        exact hpart (List.mem_cons_of_mem _ List.mem_cons_self) w
      · exact Recorded.forall_calls_pure none

theorem forall_calls_convertOperandRecorded
    {c : Option Converter}
    (h : ∀ conversion ∈ c.toList, ∀ part ∈ conversion.parts, ∀ v, P (.convert part v))
    (v : Value) :
    ∀ call ∈ (convertOperandRecorded c v).calls, P call := by
  cases c with
  | none =>
      exact Recorded.forall_calls_pure (some v)
  | some c =>
      exact forall_calls_convertRecorded (h c List.mem_cons_self) v

/-- A comparator calls registered comparators and
the parts of its conversions, and nothing else. -/
theorem forall_calls_applyRecorded
    {c : Comparator}
    (hcompare : ∀ e a b, P (.compare e a b))
    (hconvert : ∀ conversion ∈ c.conversions, ∀ part ∈ conversion.parts, ∀ v,
      P (.convert part v))
    (a b : Value) :
    ∀ call ∈ (c.applyRecorded a b).calls, P call := by
  induction c generalizing a b with
  | registered e =>
      intro call hcall
      rw [List.mem_singleton.1 hcall]
      exact hcompare e a b
  | equality =>
      exact Recorded.forall_calls_pure _
  | inverse base ih =>
      exact Recorded.forall_calls_bind (ih hconvert b a) (Recorded.forall_calls_pure _)
  | converted first base second ih =>
      simp only [Comparator.conversions, List.forall_mem_append] at hconvert
      obtain ⟨⟨hfirst, hsecond⟩, hbase⟩ := hconvert
      refine Recorded.forall_calls_bind (forall_calls_convertOperandRecorded hfirst a) ?_
      split
      · exact Recorded.forall_calls_pure _
      · refine Recorded.forall_calls_bind
          (forall_calls_convertOperandRecorded hsecond b) ?_
        split
        · exact Recorded.forall_calls_pure _
        · exact ih hbase _ _

end Calls

namespace Sources

section Builds

variable {s : Sources} {a b : TypeId} {c : Comparator}

theorem Supplies.found_of_mem
    {conversion : Option Converter}
    (h : s.Supplies conversion a b) :
    ∀ part ∈ conversion.toList, ∃ source target,
      s.conversion? source target = some part := by
  cases h with
  | unchanged a =>
      exact List.forall_mem_nil _
  | found hfound =>
      exact List.forall_mem_singleton.2 ⟨_, _, hfound⟩

/-- Every conversion within a comparator was found for a comparison. -/
theorem Builds.found_of_mem
    (h : s.Builds c a b) :
    ∀ conversion ∈ c.conversions,
      ∃ source target, s.conversion? source target = some conversion := by
  induction h with
  | registered hmem hfirst hsecond =>
      exact List.forall_mem_nil _
  | equality a b =>
      exact List.forall_mem_nil _
  | inverse hbase ih =>
      exact ih
  | converted hfirst hsecond hbase ih =>
      rw [Comparator.conversions, List.forall_mem_append, List.forall_mem_append]
      exact ⟨⟨hfirst.found_of_mem, hsecond.found_of_mem⟩, ih⟩

/-- A comparator that a search finds calls no
converter that must not be used to compare values. -/
theorem permitted_of_resolve
    (h : s.resolve a b = some c)
    (x y : Value) :
    ∀ call ∈ (c.applyRecorded x y).calls, call.Permitted := by
  refine forall_calls_applyRecorded (fun _ _ _ => True.intro) ?_ x y
  intro conversion hmem part hpart _
  obtain ⟨source, target, hfound⟩ := (builds_of_resolve h).found_of_mem conversion hmem
  exact Converter.noComparison_of_mem_parts
    (Conversion.Registry.noComparison_of_findForComparison? hfound) hpart

end Builds

/-- The same sources with their converters silenced. -/
def silenced
    (s : Sources) : Sources :=
  { s with converters := s.converters.silenced }

theorem conversion?_silenced
    (s : Sources) (source target : TypeId) :
    s.silenced.conversion? source target = s.conversion? source target := by
  exact Conversion.Registry.findForComparison?_silenced s.converters
    s.types source target

/-- No answer depends on what is silenced. -/
theorem resolve_silenced
    (s : Sources) (a b : TypeId) :
    s.silenced.resolve a b = s.resolve a b := by
  have hdirect : s.silenced.direct? a b = s.direct? a b := rfl
  have hsingle : s.silenced.single? a b = s.single? a b := by
    funext e
    simp only [single?, convertSecond?, convertFirst?, conversion?_silenced]
    rfl
  have hdouble : s.silenced.double? a b = s.double? a b := by
    funext e
    simp only [double?, convertBoth?, conversion?_silenced]
  have hequality : s.silenced.convertedEquality? a b = s.convertedEquality? a b := by
    simp only [convertedEquality?, conversion?_silenced]
  unfold resolve
  rw [hdirect, hsingle, hdouble, hequality]
  rfl

end Sources
end Comparison
end TriggerScript
