import TriggerScript.Comparison.Standard
import TriggerScript.Proofs.TypeSystem.Persistence
import TriggerScript.Proofs.Typing.Settling

/-!
# Asking before a type is registered

A pair of types can be asked for before its types are registered, and the answer is
remembered when a type is registered. Whether a pair was asked for beforehand therefore
makes a difference, though only to pairs with the new type, and only if the search for
the pair finds something else once the type has a supertype.
-/

namespace TriggerScript
namespace TypeSystem

open Typing Conversion Comparison

theorem after_append_congr
    {j j' : Journal}
    (h : after j = after j') (later : Journal) :
    after (later ++ j) = after (later ++ j') := by
  induction later with
  | nil =>
      exact h
  | cons op later ih =>
      rw [List.cons_append, List.cons_append, after, after, ih]

section Asked

variable {a b : TypeId} {j : Journal}

/-- Asking again changes nothing. -/
theorem after_comparator_of_remembers
    (h : (after j).remembers a b = true) :
    after (.comparator a b :: j) = after j := by
  obtain ⟨found, hfound⟩ := Option.isSome_iff_exists.1 h
  rw [after, perform, comparator_of_lookup_eq_some hfound]

theorem sources_after_comparator
    (j : Journal) (a b : TypeId) :
    (after (.comparator a b :: j)).sources = (after j).sources := by
  exact perform_sources (after j) (.comparator a b)

/-- A query makes no difference to the sources of later type systems. -/
theorem sources_after_append_comparator
    (later j : Journal) (a b : TypeId) :
    (after (later ++ .comparator a b :: j)).sources = (after (later ++ j)).sources := by
  rw [← sources_after_registrations, ← sources_after_registrations (later ++ j),
    List.filter_append, List.filter_append,
    List.filter_cons_of_neg (by simp [Operation.isRegistration])]

theorem remembers_after_comparator
    (j : Journal) (a b : TypeId) :
    (after (.comparator a b :: j)).remembers a b = true := by
  rw [after, perform, remembers]
  cases h : (after j).memo.lookup (a, b) with
  | some found =>
      rw [comparator_of_lookup_eq_some h, h]
      rfl
  | none =>
      rw [comparator_of_lookup_eq_none h, List.lookup_cons_self]
      rfl

/-- Registering a type leaves alone what is remembered. -/
theorem memo_perform_registerType
    (s : TypeSystem) (d : TypeDeclaration) :
    (s.perform (.registerType d)).memo = s.memo := by
  cases h : s.registerType d with
  | error refusal =>
      simp only [perform, h]
  | ok r =>
      obtain ⟨id, s'⟩ := r
      obtain ⟨types, -, rfl⟩ := registerType_ok h
      simp only [perform, h]

theorem remembers_after_registerType
    (j : Journal) (d : TypeDeclaration) (a b : TypeId) :
    (after (.registerType d :: j)).remembers a b = (after j).remembers a b := by
  rw [after, remembers, memo_perform_registerType]
  rfl

theorem after_registerType
    {d : TypeDeclaration} {id : TypeId} {s' : TypeSystem}
    (h : (after j).registerType d = .ok (id, s')) :
    after (.registerType d :: j) = s' := by
  simp only [after, perform, h]

/-- An answer that was found out when what the two types can
be used as was settled is the one that a search finds now. -/
theorem comparator_eq_resolve_of_settled
    {types : Typing.Registry}
    (hext : types.Extends (origin a b j).types)
    (ha : types.Settled (after j).types a)
    (hb : types.Settled (after j).types b) :
    ((after j).comparator a b).1 = (after j).sources.resolve a b := by
  obtain ⟨hgrounded, hextends, hsame⟩ := sources_eq_origin_withTypes j a b
  have hall := hext.trans hextends
  have hagree := ((Registry.settled_iff_agree hall).1 ha).of_extends hext hextends
  have hagree' := ((Registry.settled_iff_agree hall).1 hb).of_extends hext hextends
  rw [comparator_eq_resolve_origin, hsame]
  exact (Sources.resolve_withTypes hagree hagree' hextends hgrounded).symm

/-- If two types are settled, then it makes no
difference whether they were asked for beforehand. -/
theorem comparator_asked_of_settled
    (later : Journal)
    (ha : (after j).types.Settled (after (later ++ j)).types a)
    (hb : (after j).types.Settled (after (later ++ j)).types b) :
    ((after (later ++ .comparator a b :: j)).comparator a b).1 =
      ((after (later ++ j)).comparator a b).1 := by
  cases hbefore : (after j).remembers a b with
  | true =>
      rw [after_append_congr (after_comparator_of_remembers hbefore)]
  | false =>
      -- in both runs the answer is found out now or later
      have hasked := origin_extends later (.comparator a b :: j) a b
      rw [origin_of_newly_remembers hbefore, sources_after_comparator] at hasked
      have hunasked := origin_extends later j a b
      rw [origin_of_not_remembers hbefore] at hunasked
      have hsame := sources_after_append_comparator later j a b
      have htypes : (after (later ++ .comparator a b :: j)).types =
          (after (later ++ j)).types :=
        congrArg Sources.types hsame
      rw [comparator_eq_resolve_of_settled hunasked.types ha hb,
        comparator_eq_resolve_of_settled hasked.types (htypes ▸ ha) (htypes ▸ hb), hsame]

end Asked

/-- Two runs that differ in whether a pair was asked for: if what the two types can be
used as is settled, then the pair has the same comparator in both. If the pair was asked
for just before a type was registered, then its comparator is the same in both runs
exactly if the pair was remembered anyway, or the registration makes no difference to the
search for it; in particular for a pair without the new type. -/
theorem comparator_asked_before
    (j : Journal) (a b : TypeId) :
    (∀ later : Journal,
        (after j).types.Settled (after (later ++ j)).types a →
        (after j).types.Settled (after (later ++ j)).types b →
        ((after (later ++ .comparator a b :: j)).comparator a b).1 =
          ((after (later ++ j)).comparator a b).1) ∧
      ∀ d id s',
        (after j).registerType d = .ok (id, s') →
        (((after (.registerType d :: .comparator a b :: j)).comparator a b).1 =
            ((after (.registerType d :: j)).comparator a b).1 ↔
          (after j).remembers a b = true ∨
            (after j).sources.resolve a b = s'.sources.resolve a b) ∧
        (a ≠ id → b ≠ id →
          ((after (.registerType d :: .comparator a b :: j)).comparator a b).1 =
            ((after (.registerType d :: j)).comparator a b).1) := by
  refine ⟨fun later => comparator_asked_of_settled later, ?_⟩
  intro d id s' haccepted
  constructor
  · cases hbefore : (after j).remembers a b with
    | true =>
        have hrun :=
          after_append_congr (after_comparator_of_remembers hbefore) [.registerType d]
        simp only [List.singleton_append] at hrun
        simp [hrun]
    | false =>
        -- the run with the query keeps the old answer, the one without it searches anew
        have hkept := (remembers_after_registerType (.comparator a b :: j) d a b).trans
          (remembers_after_comparator j a b)
        have hnone := (remembers_after_registerType j d a b).trans hbefore
        rw [comparator_eq_resolve_origin, comparator_eq_resolve_origin,
          origin_of_still_remembers (remembers_after_comparator j a b) hkept,
          origin_of_newly_remembers hbefore, sources_after_comparator,
          origin_of_not_remembers hnone, after_registerType haccepted]
        simp
  · intro ha hb
    obtain ⟨types, hregister, rfl⟩ := registerType_ok haccepted
    have htypes : (after ([.registerType d] ++ j)).types = types :=
      congrArg TypeSystem.types (after_registerType haccepted)
    refine comparator_asked_of_settled [.registerType d] ?_ ?_
    · rw [htypes]
      exact Registry.settled_of_register hregister ha
    · rw [htypes]
      exact Registry.settled_of_register hregister hb

section Pets

/-- Pets, and how they are compared. -/
def petsCompared : Journal :=
  [.registerComparator ⟨"pet", "pet", Standard.integers, true⟩,
   .registerType (TypeDeclaration.plain "pet" "pet")]

def dogDeclaration : TypeDeclaration :=
  { TypeDeclaration.plain "dog" "dog" with supertype := some "pet" }

theorem dogDeclaration_accepted :
    ∃ s', (after petsCompared).registerType dogDeclaration = .ok (⟨2⟩, s') := by
  have haccepted :
      ((after petsCompared).registerType dogDeclaration).toOption.map Prod.fst =
        some ⟨2⟩ := by
    decide +kernel
  cases h : (after petsCompared).registerType dogDeclaration with
  | error refusal =>
      rw [h] at haccepted
      cases haccepted
  | ok r =>
      rw [h] at haccepted
      obtain ⟨id, s'⟩ := r
      cases haccepted
      exact ⟨s', rfl⟩

/-- Pets may be asked for before there are dogs, whatever is registered
for dogs afterwards. Dogs may not be asked for before there are any,
unless the search for them finds the same before and after. -/
theorem comparator_asked_before_pets :
    let later := dogsCompared ++ [.registerType dogDeclaration]
    (after petsCompared).types.Settled (after (later ++ petsCompared)).types ⟨1⟩ ∧
      ((after (later ++ .comparator ⟨1⟩ ⟨1⟩ :: petsCompared)).comparator ⟨1⟩ ⟨1⟩).1 =
        ((after (later ++ petsCompared)).comparator ⟨1⟩ ⟨1⟩).1 ∧
      ∃ s',
        (after petsCompared).registerType dogDeclaration = .ok (⟨2⟩, s') ∧
        (⟨1⟩ : TypeId) ≠ ⟨2⟩ ∧
        ((after (.registerType dogDeclaration :: .comparator ⟨1⟩ ⟨1⟩ ::
            petsCompared)).comparator
            ⟨1⟩ ⟨1⟩).1 =
          ((after (.registerType dogDeclaration :: petsCompared)).comparator ⟨1⟩ ⟨1⟩).1 ∧
        (((after (.registerType dogDeclaration :: .comparator ⟨2⟩ ⟨2⟩ ::
            petsCompared)).comparator
            ⟨2⟩ ⟨2⟩).1 =
            ((after (.registerType dogDeclaration :: petsCompared)).comparator
              ⟨2⟩ ⟨2⟩).1 ↔
          (after petsCompared).remembers ⟨2⟩ ⟨2⟩ = true ∨
            (after petsCompared).sources.resolve ⟨2⟩ ⟨2⟩ =
              s'.sources.resolve ⟨2⟩ ⟨2⟩) := by
  intro later
  obtain ⟨s', haccepted⟩ := dogDeclaration_accepted
  have hne : (⟨1⟩ : TypeId) ≠ ⟨2⟩ := by decide
  have hregistered : (after petsCompared).types.Registered ⟨1⟩ := by decide +kernel
  obtain ⟨hsettled, hpets⟩ := comparator_asked_before petsCompared ⟨1⟩ ⟨1⟩
  obtain ⟨-, hdogs⟩ := comparator_asked_before petsCompared ⟨2⟩ ⟨2⟩
  exact ⟨Or.inl hregistered,
    hsettled later (Or.inl hregistered) (Or.inl hregistered), s', haccepted, hne,
    (hpets dogDeclaration ⟨2⟩ s' haccepted).2 hne hne,
    (hdogs dogDeclaration ⟨2⟩ s' haccepted).1⟩

/-- It does make a difference whether dogs are asked for before there are dogs: then
being the same value is remembered, and otherwise they are compared as pets. -/
theorem not_forall_comparator_asked_before :
    ¬∀ (j : Journal) (d : TypeDeclaration) (id : TypeId)
        (s' : TypeSystem) (a b : TypeId),
        (after j).registerType d = .ok (id, s') →
        ((after (.registerType d :: .comparator a b :: j)).comparator a b).1 =
          ((after (.registerType d :: j)).comparator a b).1 := by
  intro h
  obtain ⟨s', haccepted⟩ := dogDeclaration_accepted
  have hsame := h petsCompared dogDeclaration ⟨2⟩ s' ⟨2⟩ ⟨2⟩ haccepted
  have hderived := congrArg (Option.map Comparator.isDerived) hsame
  revert hderived
  decide +kernel

end Pets

end TypeSystem
end TriggerScript
