import TriggerScript.Proofs.Comparison.Foundation
import TriggerScript.Proofs.Comparison.Grounded
import TriggerScript.Proofs.Conversion.Choice

/-!
# Searches in larger sources

Types, converters and comparators are added behind those that are there. A search in the
larger sources finds something wherever one in the smaller sources did, though it may
find something else: an earlier stage can come into reach. Nothing comes before the first
stage, so a registered comparator that fits two registered types without a conversion is
found again.
-/

namespace TriggerScript
namespace Comparison

/-- Whether a comparator is a registered one, as it is or with its operands swapped. -/
def Comparator.isDirect : Comparator → Bool
  | .registered _ => true
  | .inverse (.registered _) => true
  | _ => false

/-- A registered comparator is reached directly without a conversion. -/
theorem foundation_of_isDirect
    {c : Comparator}
    (h : c.isDirect = true) :
    ∃ e : ComparatorEntry, c.foundation = e.under 0 := by
  cases c with
  | registered e =>
      exact ⟨e, rfl⟩
  | equality =>
      simp [Comparator.isDirect] at h
  | inverse base =>
      cases base with
      | registered e =>
          exact ⟨e, rfl⟩
      | _ =>
          simp [Comparator.isDirect] at h
  | converted first base second =>
      simp [Comparator.isDirect] at h

namespace Sources

/-- The second sources hold what the first ones hold,
in the same order, and possibly more behind it. -/
structure Extends
    (s s' : Sources) : Prop where
  types : s.types.Extends s'.types
  converters : s.converters <+: s'.converters
  comparators : s.comparators <+: s'.comparators

theorem Extends.refl
    (s : Sources) :
    s.Extends s := by
  exact ⟨Typing.Registry.Extends.refl _, List.prefix_rfl, List.prefix_rfl⟩

theorem Extends.trans
    {s s' s'' : Sources}
    (h : s.Extends s')
    (h' : s'.Extends s'') :
    s.Extends s'' := by
  constructor
  · exact h.types.trans h'.types
  · exact h.converters.trans h'.converters
  · exact h.comparators.trans h'.comparators

variable {s s' : Sources} {a b : TypeId} {e : ComparatorEntry} {side : Side}

/-- Two types have a conversion if some converter
serves them; the one for exactly these types does. -/
theorem isSome_conversion?_iff
    {source target : TypeId} :
    (s.conversion? source target).isSome ↔
      ∃ c ∈ s.converters,
        c.options.noComparison = false ∧
          Conversion.Registry.serves s.types source target c = true := by
  unfold conversion? Conversion.Registry.findForComparison?
  simp only [Conversion.Registry.isSome_findWhere?_iff, Bool.not_eq_true']

theorem isSome_direct?_iff :
    (s.direct? a b e).isSome ↔ s.fits e a b = true ∨ s.fits e b a = true := by
  unfold direct?
  cases s.fits e a b <;> cases s.fits e b a <;> simp

theorem isSome_convertSecond?_iff :
    (s.convertSecond? a b e side).isSome ↔
      s.types.isAssignable (e.typeAt side) a = true ∧
        (s.conversion? b (e.typeAt side.other)).isSome := by
  unfold convertSecond?
  split <;> simp_all

theorem isSome_convertFirst?_iff :
    (s.convertFirst? a b e side).isSome ↔
      s.types.isAssignable (e.typeAt side) b = true ∧
        (s.conversion? a (e.typeAt side.other)).isSome := by
  unfold convertFirst?
  split <;> simp_all

theorem isSome_convertBoth?_iff :
    (s.convertBoth? a b e side).isSome ↔
      (s.conversion? a (e.typeAt side)).isSome ∧
        (s.conversion? b (e.typeAt side.other)).isSome := by
  unfold convertBoth?
  cases s.conversion? a (e.typeAt side) <;>
    cases s.conversion? b (e.typeAt side.other) <;> cases side <;> simp

theorem isSome_convertedEquality?_iff :
    (s.convertedEquality? a b).isSome ↔
      (a ≠ TypeId.object ∧ b ≠ TypeId.object) ∧
        ((s.conversion? b a).isSome ∨ (s.conversion? a b).isSome) := by
  unfold convertedEquality?
  split <;> simp_all

section Extended

variable (h : s.Extends s')
include h

theorem Extends.isAssignable
    {target source : TypeId}
    (hold : s.types.isAssignable target source = true) :
    s'.types.isAssignable target source = true := by
  exact Typing.Registry.isAssignable_mono h.types hold

theorem Extends.fits
    (hold : s.fits e a b = true) :
    s'.fits e a b = true := by
  simp only [Sources.fits, Bool.and_eq_true] at hold ⊢
  exact ⟨h.isAssignable hold.1, h.isAssignable hold.2⟩

theorem Extends.isSome_conversion?
    {source target : TypeId}
    (hold : (s.conversion? source target).isSome) :
    (s'.conversion? source target).isSome := by
  rw [isSome_conversion?_iff] at hold ⊢
  obtain ⟨c, hc, haccept, hserves⟩ := hold
  refine ⟨c, h.converters.subset hc, haccept, ?_⟩
  simp only [Conversion.Registry.serves, Bool.and_eq_true] at hserves ⊢
  exact ⟨h.isAssignable hserves.1, h.isAssignable hserves.2⟩

theorem Extends.isSome_direct?
    (hold : (s.direct? a b e).isSome) :
    (s'.direct? a b e).isSome := by
  rw [isSome_direct?_iff] at hold ⊢
  exact hold.imp h.fits h.fits

theorem Extends.isSome_single?
    (hold : (s.single? a b e).isSome) :
    (s'.single? a b e).isSome := by
  simp only [single?, List.findSome?_isSome_iff, Option.isSome_or,
    Bool.or_eq_true] at hold ⊢
  obtain ⟨side, hside, hold⟩ := hold
  refine ⟨side, hside, hold.imp ?_ ?_⟩
  · rw [isSome_convertSecond?_iff, isSome_convertSecond?_iff]
    exact And.imp h.isAssignable h.isSome_conversion?
  · rw [isSome_convertFirst?_iff, isSome_convertFirst?_iff]
    exact And.imp h.isAssignable h.isSome_conversion?

theorem Extends.isSome_double?
    (hold : (s.double? a b e).isSome) :
    (s'.double? a b e).isSome := by
  simp only [double?, List.findSome?_isSome_iff, isSome_convertBoth?_iff] at hold ⊢
  obtain ⟨side, hside, hold⟩ := hold
  exact ⟨side, hside, hold.imp h.isSome_conversion? h.isSome_conversion?⟩

theorem Extends.isSome_convertedEquality?
    (hold : (s.convertedEquality? a b).isSome) :
    (s'.convertedEquality? a b).isSome := by
  rw [isSome_convertedEquality?_iff] at hold ⊢
  exact hold.imp id (Or.imp h.isSome_conversion? h.isSome_conversion?)

theorem Extends.isSome_findSome?
    {stage stage' : ComparatorEntry → Option Comparator}
    (hstage : ∀ e, (stage e).isSome → (stage' e).isSome)
    (hold : (s.comparators.findSome? stage).isSome) :
    (s'.comparators.findSome? stage').isSome := by
  rw [List.findSome?_isSome_iff] at hold ⊢
  obtain ⟨e, he, hold⟩ := hold
  exact ⟨e, h.comparators.subset he, hstage e hold⟩

/-- Where something is found, something is found in larger sources. -/
theorem Extends.isSome_resolve
    (hold : (s.resolve a b).isSome) :
    (s'.resolve a b).isSome := by
  simp only [resolve, Option.isSome_or, Bool.or_eq_true] at hold ⊢
  rcases hold with hdirect | hequality | hsingle | hdouble | hconverted
  · exact Or.inl (h.isSome_findSome? (fun _ => h.isSome_direct?) hdirect)
  · exact Or.inr (Or.inl hequality)
  · exact Or.inr
      (Or.inr (Or.inl (h.isSome_findSome? (fun _ => h.isSome_single?) hsingle)))
  · exact Or.inr (Or.inr (Or.inr (Or.inl
      (h.isSome_findSome? (fun _ => h.isSome_double?) hdouble))))
  · exact Or.inr (Or.inr (Or.inr (Or.inr (h.isSome_convertedEquality? hconverted))))

end Extended

/-- Later stages convert operands, or compare without a registered comparator. -/
theorem findSome?_direct?_of_resolve
    {c : Comparator}
    (h : s.resolve a b = some c)
    (hdirect : c.isDirect = true) :
    s.comparators.findSome? (s.direct? a b) = some c := by
  obtain ⟨entry, hentry⟩ := foundation_of_isDirect hdirect
  unfold resolve at h
  rcases Option.or_eq_some_iff.1 h with hfirst | ⟨-, h⟩
  · exact hfirst
  rcases Option.or_eq_some_iff.1 h with hequality | ⟨-, h⟩
  · unfold equality? at hequality
    split at hequality <;> cases hequality
    cases hentry
  rcases Option.or_eq_some_iff.1 h with hsingle | ⟨-, h⟩
  · obtain ⟨e, -, he⟩ := List.exists_of_findSome?_eq_some hsingle
    rw [foundation_single? he] at hentry
    cases hentry
  rcases Option.or_eq_some_iff.1 h with hdouble | ⟨-, hconverted⟩
  · obtain ⟨e, -, he⟩ := List.exists_of_findSome?_eq_some hdouble
    rw [foundation_double? he] at hentry
    cases hentry
  · unfold convertedEquality? at hconverted
    split at hconverted
    · rcases Option.or_eq_some_iff.1 hconverted with hsecond | ⟨-, hfirst⟩
      · obtain ⟨conversion, -, rfl⟩ := Option.map_eq_some_iff.1 hsecond
        cases hentry
      · obtain ⟨conversion, -, rfl⟩ := Option.map_eq_some_iff.1 hfirst
        cases hentry
    · cases hconverted

/-- Between registered types, a comparator that is found without a conversion is found
again in larger sources: neither new types nor entries behind it come before it. -/
theorem Extends.resolve_of_isDirect
    {c : Comparator}
    (h : s.Extends s')
    (ha : s.types.Registered a)
    (hb : s.types.Registered b)
    (hold : s.resolve a b = some c)
    (hdirect : c.isDirect = true) :
    s'.resolve a b = some c := by
  have hfound := findSome?_direct?_of_resolve hold hdirect
  have hsame : s'.direct? a b = s.direct? a b :=
    funext fun e => direct?_withTypes (ha.agree h.types) (hb.agree h.types) e
  unfold resolve
  rw [hsame, h.comparators.findSome?_eq_some hfound]
  rfl

end Sources

end Comparison
end TriggerScript
