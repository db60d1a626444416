import TriggerScript.Comparison.Standard
import TriggerScript.Proofs.Comparison.Coverage
import TriggerScript.Proofs.TypeSystem.Persistence

/-!
# Comparators that are never used

A declaration of a comparator is only refused for a second comparator between exactly the
same types in the same order. A comparator whose types an earlier one covers, be it with
its operands swapped or for more general types, is accepted all the same, and neither its
own types nor any others are ever compared by it.
-/

namespace TriggerScript
namespace TypeSystem

open Typing Conversion Comparison

theorem hasComparator_eq_true_iff
    {s : TypeSystem} {first second : TypeId} :
    s.hasComparator first second = true ↔
      ∃ e ∈ s.comparators, e.first = first ∧ e.second = second := by
  simp [hasComparator]

theorem registerComparator_eq_error_iff
    {s : TypeSystem} {d : ComparatorDeclaration} :
    (∃ refusal, s.registerComparator d = .error refusal) ↔
      ∀ e,
        d.resolved? s.types = some e →
        (e.first = TypeId.object ∧ e.second = TypeId.object) ∨
          ∃ e' ∈ s.comparators, e'.first = e.first ∧ e'.second = e.second := by
  have hnot :
      (∃ refusal, s.registerComparator d = .error refusal) ↔
        ¬∃ s', s.registerComparator d = .ok s' := by
    cases s.registerComparator d <;> simp
  rw [hnot]
  constructor
  · intro hrefused e hresolved
    by_contra hfree
    rw [not_or, ← hasComparator_eq_true_iff, Bool.not_eq_true] at hfree
    exact hrefused ⟨_,
      registerComparator_eq_ok_iff.2 ⟨e, hresolved, hfree.1, hfree.2, rfl⟩⟩
  · rintro htaken ⟨s', haccepted⟩
    obtain ⟨e, hresolved, huniversal, hfree, -⟩ :=
      registerComparator_eq_ok_iff.1 haccepted
    rcases htaken e hresolved with h | h
    · exact huniversal h
    · rw [hasComparator_eq_true_iff.2 h] at hfree
      cases hfree

section Accepted

variable {j : Journal} {d : ComparatorDeclaration} {s' : TypeSystem}

theorem after_registerComparator
    (h : (after j).registerComparator d = .ok s') :
    after (.registerComparator d :: j) = s' := by
  simp only [after, perform, h]

/-- Everything is forgotten when a comparator is accepted,
so whatever is answered later was found out with it. -/
theorem extends_origin_of_registerComparator
    (h : (after j).registerComparator d = .ok s')
    (later : Journal) (a b : TypeId) :
    s'.sources.Extends (origin a b (later ++ .registerComparator d :: j)) := by
  have hafter := after_registerComparator h
  obtain ⟨e, -, hs'⟩ := resolved?_of_registerComparator h
  have hforgotten : (after (.registerComparator d :: j)).remembers a b = false := by
    rw [hafter, hs']
    rfl
  have hnow := origin_of_not_remembers hforgotten
  rcases origin_later later (.registerComparator d :: j) a b with hsame | hextends
  · rw [hsame, hnow, hafter]
    exact Sources.Extends.refl _
  · rwa [hafter] at hextends

end Accepted

/-- A declaration of a comparator is refused exactly if one of its types is unknown, both
are the universal type, or there is a comparator between exactly these types in this
order. One that is accepted compares its own types as it is exactly if no earlier
comparator covers it; and if one does, then nothing is ever compared by it. -/
theorem accepted_comparator_used_iff
    (j : Journal) (d : ComparatorDeclaration) :
    ((∃ refusal, (after j).registerComparator d = .error refusal) ↔
        ∀ e,
          d.resolved? (after j).types = some e →
          (e.first = TypeId.object ∧ e.second = TypeId.object) ∨
            ∃ e' ∈ (after j).comparators, e'.first = e.first ∧ e'.second = e.second) ∧
      ∀ s',
        (after j).registerComparator d = .ok s' →
        ∃ e,
          d.resolved? (after j).types = some e ∧
          ((s'.comparator e.first e.second).1 = some (.registered e) ↔
            ∀ e' ∈ (after j).comparators, ¬(after j).sources.Covers e' e) ∧
          ((∃ e' ∈ (after j).comparators, (after j).sources.Covers e' e) →
            ∀ later a b c,
              ((after (later ++ .registerComparator d :: j)).comparator a b).1 = some c →
              c.base? ≠ some e) := by
  refine ⟨registerComparator_eq_error_iff, ?_⟩
  intro s' haccepted
  obtain ⟨e, hresolved, -, hfree, hs'⟩ := registerComparator_eq_ok_iff.1 haccepted
  have hnew : e ∉ (after j).comparators := by
    intro hmem
    rw [hasComparator_eq_true_iff.2 ⟨e, hmem, rfl, rfl⟩] at hfree
    cases hfree
  refine ⟨e, hresolved, ?_, ?_⟩
  · have hforgotten : s'.memo.lookup (e.first, e.second) = none := by
      rw [hs']
      rfl
    rw [comparator_of_lookup_eq_none hforgotten]
    subst hs'
    exact Sources.resolve_declared_iff rfl hnew
  · rintro ⟨e', hmem, hcovers⟩ later a b c hc
    have hextends := extends_origin_of_registerComparator haccepted later a b
    rw [comparator_eq_resolve_origin] at hc
    generalize origin a b (later ++ .registerComparator d :: j) = sources at hc hextends
    subst hs'
    -- the same types as before the registration, and the earlier comparators in front of
    -- the new one
    obtain ⟨behind, hbehind⟩ := hextends.comparators
    rw [List.append_assoc, List.singleton_append] at hbehind
    exact Sources.base?_resolve_ne hbehind.symm hmem (hextends.covers hcovers) hnew hc

section Lengths

/-- Numbers are compared with the lengths of texts. -/
def lengthsCompared : Journal :=
  [.registerComparator ⟨"number", "text", Standard.integerWithLength, true⟩,
   .registerType (TypeDeclaration.plain "text" "text"),
   .registerType (TypeDeclaration.plain "number" "number")]

/-- Texts and numbers are never the same. -/
def textsWithNumbers : ComparatorDeclaration :=
  ⟨"text", "number", Standard.always .notEqual, false⟩

theorem textsWithNumbers_accepted :
    ∃ s', (after lengthsCompared).registerComparator textsWithNumbers = .ok s' := by
  have haccepted :
      ((after lengthsCompared).registerComparator textsWithNumbers).toOption.isSome =
        true := by
    decide +kernel
  cases h : (after lengthsCompared).registerComparator textsWithNumbers with
  | error refusal =>
      rw [h] at haccepted
      cases haccepted
  | ok s' =>
      exact ⟨s', rfl⟩

theorem textsWithNumbers_covered
    {e : ComparatorEntry}
    (h : textsWithNumbers.resolved? (after lengthsCompared).types = some e) :
    ∃ e' ∈ (after lengthsCompared).comparators,
      (after lengthsCompared).sources.Covers e' e := by
  have hcovered :
      (textsWithNumbers.resolved? (after lengthsCompared).types).all (fun e =>
        (after lengthsCompared).comparators.any fun e' =>
          decide ((after lengthsCompared).sources.Covers e' e)) = true := by
    decide +kernel
  rw [h, Option.all_some, List.any_eq_true] at hcovered
  simpa using hcovered

/-- The comparator of texts with numbers is accepted behind the one of numbers with
texts, which covers it: it does not compare them, nor anything else. -/
theorem accepted_comparator_used_iff_lengths :
    ∃ s' e,
      (after lengthsCompared).registerComparator textsWithNumbers = .ok s' ∧
        textsWithNumbers.resolved? (after lengthsCompared).types = some e ∧
        (∃ e' ∈ (after lengthsCompared).comparators,
          (after lengthsCompared).sources.Covers e' e) ∧
        (s'.comparator e.first e.second).1 ≠ some (.registered e) ∧
        ∀ later a b c,
          ((after (later ++ .registerComparator textsWithNumbers ::
              lengthsCompared)).comparator
              a b).1 = some c →
          c.base? ≠ some e := by
  obtain ⟨s', haccepted⟩ := textsWithNumbers_accepted
  obtain ⟨-, hused⟩ := accepted_comparator_used_iff lengthsCompared textsWithNumbers
  obtain ⟨e, hresolved, hdeclared, hnever⟩ := hused s' haccepted
  have hcovered := textsWithNumbers_covered hresolved
  refine ⟨s', e, haccepted, hresolved, hcovered, ?_, hnever hcovered⟩
  intro h
  obtain ⟨e', hmem, hcovers⟩ := hcovered
  exact hdeclared.1 h e' hmem hcovers

/-- A comparator that is accepted need not compare the types that it is declared for:
texts and numbers go on being compared as numbers and texts. -/
theorem not_forall_accepted_comparator_used :
    ¬∀ (j : Journal) (d : ComparatorDeclaration) (s' : TypeSystem) (e : ComparatorEntry),
        (after j).registerComparator d = .ok s' →
        d.resolved? (after j).types = some e →
        (s'.comparator e.first e.second).1 = some (.registered e) := by
  intro h
  obtain ⟨s', haccepted⟩ := textsWithNumbers_accepted
  obtain ⟨e, hresolved, -⟩ := resolved?_of_registerComparator haccepted
  have hused := h lengthsCompared textsWithNumbers s' e haccepted hresolved
  have hderived :
      ((textsWithNumbers.resolved? (after lengthsCompared).types).all fun e =>
        ((after lengthsCompared).registerComparator textsWithNumbers).toOption.all
          fun s' =>
            (s'.comparator e.first e.second).1.all Comparator.isDerived) = true := by
    decide +kernel
  rw [hresolved, haccepted] at hderived
  simp only [Except.toOption, Option.all_some] at hderived
  rw [hused] at hderived
  cases hderived

end Lengths

end TypeSystem
end TriggerScript
