import TriggerScript.Comparison.Standard
import TriggerScript.Proofs.Comparison.Persistence
import TriggerScript.Proofs.TypeSystem.Growth

/-!
# Answers that persist

Two types that have a comparator go on having one whatever is registered later. Which one
it is may change with new converters and comparators, unless it needs no conversion: then
it stays the same, provided that it was found out when both types were registered.
-/

namespace TriggerScript
namespace TypeSystem

open Typing Conversion Comparison

theorem Growth.extends
    {s s' : Sources}
    (h : Growth s s') :
    s.Extends s' := by
  cases h with
  | unchanged =>
      exact Sources.Extends.refl s
  | types types hext =>
      exact ⟨hext, List.prefix_rfl, List.prefix_rfl⟩
  | converter c hsource htarget hfree =>
      exact ⟨Registry.Extends.refl _, List.prefix_append _ _, List.prefix_rfl⟩
  | comparator e hfirst hsecond =>
      exact ⟨Registry.Extends.refl _, List.prefix_rfl, List.prefix_append _ _⟩
  | chains =>
      exact ⟨Registry.Extends.refl _, Conversion.Registry.prefix_foldl_addNew _ _,
        List.prefix_rfl⟩

theorem extends_after
    (later j : Journal) :
    (after j).sources.Extends (after (later ++ j)).sources := by
  induction later with
  | nil =>
      exact Sources.Extends.refl _
  | cons op later ih =>
      exact ih.trans (growth_perform (after (later ++ j)) op).extends

section Origin

variable (later j : Journal) (a b : TypeId)

/-- A later answer is the remembered one, or it is found
out in sources that are at least the present ones. -/
theorem origin_later :
    origin a b (later ++ j) = origin a b j ∨
      (after j).sources.Extends (origin a b (later ++ j)) := by
  induction later with
  | nil =>
      exact Or.inl rfl
  | cons op later ih =>
      rw [List.cons_append]
      cases hbefore : (after (later ++ j)).remembers a b with
      | false =>
          rw [origin_of_newly_remembers hbefore]
          exact Or.inr (extends_after (op :: later) j)
      | true =>
          cases hafter : (after (op :: (later ++ j))).remembers a b with
          | false =>
              rw [origin_of_not_remembers hafter]
              exact Or.inr (extends_after (op :: later) j)
          | true =>
              rw [origin_of_still_remembers hbefore hafter]
              exact ih

/-- The sources that answers for a pair are drawn from only ever grow. -/
theorem origin_extends :
    (origin a b j).Extends (origin a b (later ++ j)) := by
  rcases origin_later later j a b with hsame | hext
  · rw [hsame]
    exact Sources.Extends.refl _
  · obtain ⟨-, htypes, hsources⟩ := sources_eq_origin_withTypes j a b
    rw [hsources] at hext
    have hnow : (origin a b j).Extends ((origin a b j).withTypes (after j).types) :=
      ⟨htypes, List.prefix_rfl, List.prefix_rfl⟩
    exact hnow.trans hext

end Origin

/-- Whatever happens later, two types that have a comparator go on having one; and if it
is a registered one, as it is or with its operands swapped, and was found out when both
types were registered, then it stays the same, in the same orientation. -/
theorem comparator_persists
    (later j : Journal) (a b : TypeId) :
    (((after j).comparator a b).1.isSome →
        ((after (later ++ j)).comparator a b).1.isSome) ∧
      ∀ c,
        ((after j).comparator a b).1 = some c →
        c.isDirect = true →
        FoundWhenRegistered a b j →
        ((after (later ++ j)).comparator a b).1 = some c := by
  have hext := origin_extends later j a b
  rw [comparator_eq_resolve_origin, comparator_eq_resolve_origin]
  refine ⟨hext.isSome_resolve, ?_⟩
  intro c hc hdirect hfound
  exact hext.resolve_of_isDirect hfound.1 hfound.2 hc hdirect

/-- A comparator just for dogs and pets, after the one for all pets. -/
def dogsAndPetsCompared : Journal :=
  [.registerComparator ⟨"dog", "pet", Standard.integers, false⟩]

theorem comparator_persists_pets :
    ∃ c,
      ((after petsAndDogs).comparator ⟨2⟩ ⟨1⟩).1 = some c ∧
        c.isDirect = true ∧
        FoundWhenRegistered ⟨2⟩ ⟨1⟩ petsAndDogs ∧
        ((after (dogsAndPetsCompared ++ petsAndDogs)).comparator ⟨2⟩ ⟨1⟩).1.isSome ∧
        ((after (dogsAndPetsCompared ++ petsAndDogs)).comparator ⟨2⟩ ⟨1⟩).1 =
          some c := by
  have hany : ((after petsAndDogs).comparator ⟨2⟩ ⟨1⟩).1.any Comparator.isDirect =
      true := by
    decide +kernel
  have hfound : FoundWhenRegistered ⟨2⟩ ⟨1⟩ petsAndDogs := by
    decide +kernel
  obtain ⟨c, hc, hdirect⟩ := (Option.any_eq_true _ _).1 hany
  obtain ⟨hpresent, hsame⟩ := comparator_persists dogsAndPetsCompared petsAndDogs ⟨2⟩ ⟨1⟩
  exact ⟨c, hc, hdirect, hfound, hpresent (by rw [hc]; rfl), hsame c hc hdirect hfound⟩

/-- Dogs are compared with pets before there are
dogs, so as anything is compared with pets. -/
def dogsAskedForTooEarly : Journal :=
  [.registerType { TypeDeclaration.plain "dog" "dog" with supertype := some "pet" },
   .comparator ⟨2⟩ ⟨1⟩,
   .registerComparator ⟨"object", "pet", Standard.integers, true⟩,
   .registerComparator ⟨"pet", "pet", Standard.integers, true⟩,
   .registerType (TypeDeclaration.plain "pet" "pet")]

def dogsCompared : Journal :=
  [.registerComparator ⟨"dog", "dog", Standard.integers, true⟩]

/-- It is not enough that both types are registered by now: as soon as an answer that was
found out too early is forgotten, another registered comparator takes its place. -/
theorem not_forall_comparator_persists :
    ¬∀ (later j : Journal) (a b : TypeId) (c : Comparator),
        (after j).types.Registered a →
        (after j).types.Registered b →
        ((after j).comparator a b).1 = some c →
        c.isDirect = true →
        ((after (later ++ j)).comparator a b).1 = some c := by
  intro h
  have hany :
      ((after dogsAskedForTooEarly).comparator ⟨2⟩ ⟨1⟩).1.any Comparator.isDirect =
        true := by
    decide +kernel
  obtain ⟨c, hc, hdirect⟩ := (Option.any_eq_true _ _).1 hany
  have hsame := h dogsCompared dogsAskedForTooEarly ⟨2⟩ ⟨1⟩ c
    (by decide +kernel) (by decide +kernel) hc hdirect
  rw [← hc] at hsame
  -- the comparator for all pets in the place of the one for anything and pets
  have hfirst := congrArg
    (fun found => (found.bind Comparator.base?).map ComparatorEntry.first) hsame
  revert hfirst
  decide +kernel

end TypeSystem
end TriggerScript
