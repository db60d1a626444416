import TriggerScript.Comparison.Standard
import TriggerScript.Conversion.Standard
import TriggerScript.Proofs.Comparison.Reversal
import TriggerScript.Proofs.TypeSystem.Memo

/-!
# Comparing two values in both orders

Two values compared in exchanged order give the inverse relation as long as no choice
between the operands is involved in finding their comparator. Where either of them could
be converted the two directions convert different operands, and whether they agree is up
to the converters.
-/

namespace TriggerScript
namespace TypeSystem

open Typing Conversion Comparison

theorem compare_eq_relate
    (s : TypeSystem) (a b : Value) :
    (s.compare (some a) (some b)).1 = relate (s.comparator a.typeId b.typeId).1 a b := by
  rcases h : s.comparator a.typeId b.typeId with ⟨found, s'⟩
  cases found <;> simp [compare, relate, h]

theorem comparators_origin
    (j : Journal) (a b : TypeId) :
    (origin a b j).comparators = (after j).comparators := by
  obtain ⟨_, _, hsame⟩ := sources_eq_origin_withTypes j a b
  have h : (after j).comparators = (after j).sources.comparators := rfl
  rw [h, hsame, Sources.withTypes_comparators]

theorem converters_origin
    (j : Journal) (a b : TypeId) :
    (origin a b j).converters = (after j).converters := by
  obtain ⟨_, _, hsame⟩ := sources_eq_origin_withTypes j a b
  have h : (after j).converters = (after j).sources.converters := rfl
  rw [h, hsame, Sources.withTypes_converters]

/-- Where no search leaves it open which operand to
convert, exchanged operands give the inverse relation. -/
theorem compare_swap_of_oneWay
    {j : Journal} {a b : Value}
    (hsymmetric : ∀ e ∈ (after j).comparators, e.IsSymmetric)
    (hasked : AskedWhenRegistered a.typeId b.typeId j)
    (hasked' : AskedWhenRegistered b.typeId a.typeId j)
    (honeWay : (after j).sources.OneWay a.typeId b.typeId) :
    ((after j).compare (some a) (some b)).1 =
      ((after j).compare (some b) (some a)).1.inverse := by
  have hreverse := Sources.opposite_reverses hsymmetric a.typeId b.typeId
  rw [compare_eq_relate, compare_eq_relate, comparator_eq_resolve_origin,
    comparator_eq_resolve_origin, resolve_origin hasked, resolve_origin hasked',
    ← Sources.opposite_eq_resolve honeWay]
  rw [relate_of_bothReverse hreverse, Relation.inverse_inverse]

/-- If the functions of all comparators are symmetric, then comparing two values in
exchanged order gives the inverse relation exactly if it makes no difference to the two
values which operand is preferred for conversions: the second one, as in the search for
the pair, or the first one, as in the search for the exchanged pair. -/
theorem compare_swap_iff
    (j : Journal)
    (hsymmetric : ∀ e ∈ (after j).comparators, e.IsSymmetric)
    (a b : Value) :
    ((after j).compare (some a) (some b)).1 =
        ((after j).compare (some b) (some a)).1.inverse ↔
      relate ((origin a.typeId b.typeId j).resolve a.typeId b.typeId) a b =
        relate ((origin b.typeId a.typeId j).opposite a.typeId b.typeId) a b := by
  have horigin :
      ∀ e ∈ (origin b.typeId a.typeId j).comparators, e.IsSymmetric := by
    rw [comparators_origin]
    exact hsymmetric
  have hreverse := Sources.opposite_reverses horigin a.typeId b.typeId
  rw [compare_eq_relate, compare_eq_relate, comparator_eq_resolve_origin,
    comparator_eq_resolve_origin, relate_of_bothReverse hreverse,
    Relation.inverse_inverse]

/-- Integers and texts that are converted into
each other; nothing compares them directly. -/
def integersAndTexts : Journal :=
  [.registerConverter ⟨"text", "int", Standard.textToInteger, Options.none⟩,
   .registerConverter ⟨"int", "text", Standard.toText, Options.none⟩,
   .registerType (TypeDeclaration.plain "text" "text"),
   .registerType (TypeDeclaration.plain "int" "int")]

def seven : Value := ⟨⟨1⟩, .integer 7⟩

/-- A text that reads as the integer seven, but is not how it is written. -/
def paddedSeven : Value := ⟨⟨2⟩, .text "07"⟩

theorem isSymmetric_of_integersAndTexts :
    ∀ e ∈ (after integersAndTexts).comparators, e.IsSymmetric := by
  have hnone : (after integersAndTexts).comparators.isEmpty = true := by
    decide +kernel
  rw [List.isEmpty_iff] at hnone
  simp [hnone]

theorem compare_swap_seven :
    (∀ e ∈ (after integersAndTexts).comparators, e.IsSymmetric) ∧
      (((after integersAndTexts).compare (some seven) (some paddedSeven)).1 =
          ((after integersAndTexts).compare (some paddedSeven) (some seven)).1.inverse ↔
        relate ((origin ⟨1⟩ ⟨2⟩ integersAndTexts).resolve ⟨1⟩ ⟨2⟩) seven paddedSeven =
          relate ((origin ⟨2⟩ ⟨1⟩ integersAndTexts).opposite ⟨1⟩ ⟨2⟩) seven
            paddedSeven) := by
  exact ⟨isSymmetric_of_integersAndTexts,
    compare_swap_iff integersAndTexts isSymmetric_of_integersAndTexts seven paddedSeven⟩

/-- Exchanged operands need not give the inverse relation: the text is the integer seven
once it is converted, but the integer seven is not the text once that is converted. -/
theorem not_forall_compare_swap :
    ¬∀ (j : Journal) (a b : Value),
        (∀ e ∈ (after j).comparators, e.IsSymmetric) →
        (after j).types.Registered a.typeId →
        (after j).types.Registered b.typeId →
        ((after j).compare (some a) (some b)).1 =
          ((after j).compare (some b) (some a)).1.inverse := by
  intro h
  have hseven := h integersAndTexts seven paddedSeven isSymmetric_of_integersAndTexts
  revert hseven
  decide +kernel

end TypeSystem
end TriggerScript
