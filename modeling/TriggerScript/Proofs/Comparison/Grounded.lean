import Mathlib.Data.List.Find
import TriggerScript.Comparison.Resolution
import TriggerScript.Proofs.Conversion.Chaining
import TriggerScript.Proofs.Typing.Lineage

/-!
# Sources between registered types

As long as converters and comparators only connect registered types, the comparator for
two types does not depend on the types that are registered later, provided that both keep
what they can be used as: a new type can only take part in a search as one of the two
operands.
-/

namespace TriggerScript
namespace Comparison
namespace Sources

/-- Converters and comparators only connect registered types. -/
structure Grounded
    (s : Sources) : Prop where
  converters :
    ∀ c ∈ s.converters, s.types.Registered c.source ∧ s.types.Registered c.target
  comparators :
    ∀ e ∈ s.comparators, s.types.Registered e.first ∧ s.types.Registered e.second

/-- The same converters and comparators with other types. -/
def withTypes
    (s : Sources) (types : Typing.Registry) : Sources :=
  { s with types := types }

@[simp] theorem withTypes_types
    (s : Sources) (types : Typing.Registry) :
    (s.withTypes types).types = types := by
  rfl

@[simp] theorem withTypes_converters
    (s : Sources) (types : Typing.Registry) :
    (s.withTypes types).converters = s.converters := by
  rfl

@[simp] theorem withTypes_comparators
    (s : Sources) (types : Typing.Registry) :
    (s.withTypes types).comparators = s.comparators := by
  rfl

namespace Grounded

variable {s : Sources}

theorem withTypes
    {types : Typing.Registry}
    (hg : s.Grounded)
    (hext : s.types.Extends types) :
    (s.withTypes types).Grounded := by
  refine ⟨?_, ?_⟩
  · intro c hc
    obtain ⟨hsource, htarget⟩ := hg.converters c hc
    exact ⟨hsource.of_extends hext, htarget.of_extends hext⟩
  · intro e he
    obtain ⟨hfirst, hsecond⟩ := hg.comparators e he
    exact ⟨hfirst.of_extends hext, hsecond.of_extends hext⟩

theorem addConverter
    {c : Conversion.Converter}
    (hg : s.Grounded)
    (hsource : s.types.Registered c.source)
    (htarget : s.types.Registered c.target) :
    Grounded { s with converters := s.converters ++ [c] } := by
  refine ⟨?_, hg.comparators⟩
  intro c' hc'
  rcases List.mem_append.1 hc' with hc' | hc'
  · exact hg.converters c' hc'
  · rw [List.mem_singleton] at hc'
    subst hc'
    exact ⟨hsource, htarget⟩

theorem addComparator
    {e : ComparatorEntry}
    (hg : s.Grounded)
    (hfirst : s.types.Registered e.first)
    (hsecond : s.types.Registered e.second) :
    Grounded { s with comparators := s.comparators ++ [e] } := by
  refine ⟨hg.converters, ?_⟩
  intro e' he'
  rcases List.mem_append.1 he' with he' | he'
  · exact hg.comparators e' he'
  · rw [List.mem_singleton] at he'
    subst he'
    exact ⟨hfirst, hsecond⟩

/-- A chain connects the outer ends of its two parts. -/
theorem withChains
    (hg : s.Grounded) :
    Grounded { s with converters := s.converters.withChains s.types } := by
  refine ⟨?_, hg.comparators⟩
  intro c hc
  rcases Conversion.Registry.mem_foldl_addNew hc with hc | hc
  · exact hg.converters c hc
  · obtain ⟨first, second, hfirst, hsecond, rfl⟩ := Conversion.Registry.mem_chains hc
    exact ⟨(hg.converters _ hfirst).1, (hg.converters _ hsecond).2⟩

end Grounded

section Extended

variable {s : Sources} {types : Typing.Registry} {a b : TypeId}
variable (ha : s.types.Agree types a) (hb : s.types.Agree types b)
include ha hb

theorem fits_withTypes
    (e : ComparatorEntry) :
    (s.withTypes types).fits e a b = s.fits e a b := by
  unfold fits
  rw [withTypes_types, ha, hb]

theorem direct?_withTypes
    (e : ComparatorEntry) :
    (s.withTypes types).direct? a b e = s.direct? a b e := by
  unfold direct?
  rw [fits_withTypes ha hb, fits_withTypes hb ha]

variable (hext : s.types.Extends types) (hg : s.Grounded)
include hext hg

omit hb in
/-- The conversions of a type stay the same if it keeps what
it can be used as: so do the types that converters lead to. -/
theorem conversion?_withTypes
    (target : TypeId) :
    (s.withTypes types).conversion? a target = s.conversion? a target := by
  have hserves :
      ∀ c ∈ s.converters,
        Conversion.Registry.serves types a target c =
          Conversion.Registry.serves s.types a target c := by
    intro c hc
    unfold Conversion.Registry.serves
    rw [ha, (hg.converters c hc).2.agree hext]
  unfold conversion? Conversion.Registry.findForComparison?
    Conversion.Registry.findWhere?
  rw [withTypes_converters, withTypes_types]
  split
  · rfl
  · refine List.find?_congr ?_
    intro c hc
    rw [hserves c hc]

theorem convertSecond?_withTypes
    (e : ComparatorEntry) (side : Side) :
    (s.withTypes types).convertSecond? a b e side = s.convertSecond? a b e side := by
  unfold convertSecond?
  rw [conversion?_withTypes hb hext hg, withTypes_types, ha]

theorem convertFirst?_withTypes
    (e : ComparatorEntry) (side : Side) :
    (s.withTypes types).convertFirst? a b e side = s.convertFirst? a b e side := by
  unfold convertFirst?
  rw [conversion?_withTypes ha hext hg, withTypes_types, hb]

theorem single?_withTypes
    (e : ComparatorEntry) :
    (s.withTypes types).single? a b e = s.single? a b e := by
  unfold single?
  simp only [convertSecond?_withTypes ha hb hext hg,
    convertFirst?_withTypes ha hb hext hg]

theorem double?_withTypes
    (e : ComparatorEntry) :
    (s.withTypes types).double? a b e = s.double? a b e := by
  unfold double? convertBoth?
  simp only [conversion?_withTypes ha hext hg, conversion?_withTypes hb hext hg]

theorem convertedEquality?_withTypes :
    (s.withTypes types).convertedEquality? a b = s.convertedEquality? a b := by
  unfold convertedEquality?
  rw [conversion?_withTypes ha hext hg, conversion?_withTypes hb hext hg]

/-- The comparator for two types does not depend on types registered later, as long as
both keep what they can be used as. -/
theorem resolve_withTypes :
    (s.withTypes types).resolve a b = s.resolve a b := by
  have hdirect := funext (direct?_withTypes ha hb)
  have hsingle := funext (single?_withTypes ha hb hext hg)
  have hdouble := funext (double?_withTypes ha hb hext hg)
  unfold resolve
  rw [withTypes_comparators, hdirect, hsingle, hdouble,
    convertedEquality?_withTypes ha hb hext hg]

end Extended

end Sources
end Comparison
end TriggerScript
