import TriggerScript.Comparison.Standard
import TriggerScript.Conversion.Standard
import TriggerScript.Proofs.Comparison.Foundation
import TriggerScript.Proofs.TypeSystem.Memo

/-!
# Foundations of the two directions of a pair

The answers for a pair of types and for the exchanged pair rest on the same, provided
that neither was found out before both types were registered. Registering a type does not
make a type system forget, so an answer that was found out too early stays, while the
other direction gets a new one.
-/

namespace TriggerScript
namespace TypeSystem

open Typing Conversion Comparison

/-- For two types that were registered when the answers for them were
found out, either both directions have no comparator, or they have
comparators that rest on the same registered comparator or both on
being the same value, after as many conversions, and order alike. -/
theorem foundation_comparator_swap
    (j : Journal) (a b : TypeId)
    (hfound : FoundWhenRegistered a b j)
    (hfound' : FoundWhenRegistered b a j) :
    ((after j).comparator a b).1.map Comparator.foundation =
      ((after j).comparator b a).1.map Comparator.foundation := by
  rw [comparator_eq_resolve_origin, comparator_eq_resolve_origin,
    resolve_origin_of_found hfound, resolve_origin_of_found hfound']
  exact Sources.foundation_resolve_swap

/-- Numbers and words are converted into each
other, and one direction has been asked for. -/
def wordsAskedFor : Journal :=
  [.registerType (TypeDeclaration.plain "name" "name"),
   .comparator ⟨2⟩ ⟨1⟩,
   .registerConverter ⟨"word", "number", Standard.textToInteger, Options.none⟩,
   .registerConverter ⟨"number", "word", Standard.toText, Options.none⟩,
   .registerType (TypeDeclaration.plain "word" "word"),
   .registerType (TypeDeclaration.plain "number" "number")]

theorem foundation_comparator_swap_words :
    FoundWhenRegistered ⟨1⟩ ⟨2⟩ wordsAskedFor ∧
      FoundWhenRegistered ⟨2⟩ ⟨1⟩ wordsAskedFor ∧
      ((after wordsAskedFor).comparator ⟨1⟩ ⟨2⟩).1.map Comparator.foundation =
        ((after wordsAskedFor).comparator ⟨2⟩ ⟨1⟩).1.map Comparator.foundation := by
  have hfound : FoundWhenRegistered ⟨1⟩ ⟨2⟩ wordsAskedFor := by
    decide +kernel
  have hfound' : FoundWhenRegistered ⟨2⟩ ⟨1⟩ wordsAskedFor := by
    decide +kernel
  exact ⟨hfound, hfound',
    foundation_comparator_swap wordsAskedFor ⟨1⟩ ⟨2⟩ hfound hfound'⟩

/-- Pets are compared with dogs before there are dogs. -/
def dogsAskedForEarly : Journal :=
  [.registerType { TypeDeclaration.plain "dog" "dog" with supertype := some "pet" },
   .comparator ⟨1⟩ ⟨2⟩,
   .registerComparator ⟨"pet", "pet", Standard.integers, true⟩,
   .registerType (TypeDeclaration.plain "pet" "pet")]

/-- It is not enough that both types are registered by now: there
was no comparator for pets and dogs when they were asked for, and
there still is none, while dogs and pets are compared as pets. -/
theorem not_forall_foundation_comparator_swap :
    ¬∀ (j : Journal) (a b : TypeId),
        (after j).types.Registered a →
        (after j).types.Registered b →
        ((after j).comparator a b).1.map Comparator.foundation =
          ((after j).comparator b a).1.map Comparator.foundation := by
  intro h
  have hsame := h dogsAskedForEarly ⟨1⟩ ⟨2⟩ (by decide +kernel) (by decide +kernel)
  have hpresent := congrArg Option.isSome hsame
  revert hpresent
  decide +kernel

end TypeSystem
end TriggerScript
