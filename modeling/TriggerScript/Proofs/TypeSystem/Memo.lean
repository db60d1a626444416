import TriggerScript.Comparison.Standard
import TriggerScript.Proofs.TypeSystem.Journal

/-!
# What is remembered of a search

Every answer of a type system is the result of a search, though not always of a search in
its present types, converters and comparators: a remembered answer is as old as its
entry. Since an entry does not survive a new converter or comparator, only types can have
been added in the meantime. These make no difference to a pair of types that were both
registered when the pair was asked for.
-/

namespace TriggerScript
namespace TypeSystem

open Typing Conversion Comparison

def remembers
    (s : TypeSystem) (a b : TypeId) : Bool :=
  (s.memo.lookup (a, b)).isSome

/-- The sources that the answer for a pair of types is drawn from: those of the time at
which it was found out, if it is still remembered, and the present ones otherwise. -/
def origin
    (a b : TypeId) : Journal → Sources
  | [] => initial.sources
  | op :: earlier =>
      if (after earlier).remembers a b && (after (op :: earlier)).remembers a b then
        origin a b earlier
      else
        (after (op :: earlier)).sources

/-- Whenever a pair of types was asked for, both of them were registered. -/
def AskedWhenRegistered
    (a b : TypeId) : Journal → Prop
  | [] => True
  | op :: earlier =>
      (op.pair? = some (a, b) →
          (after earlier).types.Registered a ∧ (after earlier).types.Registered b) ∧
        AskedWhenRegistered a b earlier

/-- Whether a pair of types was only asked for when
both were registered can be read off the journal. -/
def decideAskedWhenRegistered
    (a b : TypeId) : (j : Journal) → Decidable (AskedWhenRegistered a b j)
  | [] => isTrue True.intro
  | _ :: earlier =>
      have := decideAskedWhenRegistered a b earlier
      inferInstanceAs (Decidable (_ ∧ AskedWhenRegistered a b earlier))

instance
    (a b : TypeId) (j : Journal) : Decidable (AskedWhenRegistered a b j) :=
  decideAskedWhenRegistered a b j

/-- Whether both types of a pair were registered when the answer for it was found out. -/
def FoundWhenRegistered
    (a b : TypeId) (j : Journal) : Prop :=
  (origin a b j).types.Registered a ∧ (origin a b j).types.Registered b

instance
    (a b : TypeId) (j : Journal) : Decidable (FoundWhenRegistered a b j) :=
  inferInstanceAs (Decidable (_ ∧ _))

section Origin

variable {a b : TypeId}

theorem origin_of_not_remembers
    {j : Journal}
    (h : (after j).remembers a b = false) :
    origin a b j = (after j).sources := by
  cases j with
  | nil =>
      rfl
  | cons op earlier =>
      simp [origin, h]

/-- As long as an answer is remembered, it has the same origin. -/
theorem origin_of_still_remembers
    {op : Operation} {earlier : Journal}
    (hbefore : (after earlier).remembers a b = true)
    (hafter : (after (op :: earlier)).remembers a b = true) :
    origin a b (op :: earlier) = origin a b earlier := by
  simp [origin, hbefore, hafter]

/-- An answer that has just been remembered comes from the present sources. -/
theorem origin_of_newly_remembers
    {op : Operation} {earlier : Journal}
    (hbefore : (after earlier).remembers a b = false) :
    origin a b (op :: earlier) = (after (op :: earlier)).sources := by
  simp [origin, hbefore]

/-- What a call can do to the memory of one pair: the answer
is kept while at most the types are extended, or it is found
out in the present sources, or there is none afterwards. -/
theorem memory_cases
    (s : TypeSystem) (op : Operation) (a b : TypeId) :
    (∃ types,
        s.types.Extends types ∧
        (s.perform op).sources = s.sources.withTypes types ∧
        (s.perform op).memo.lookup (a, b) = s.memo.lookup (a, b)) ∨
      (op.pair? = some (a, b) ∧
        s.memo.lookup (a, b) = none ∧
        (s.perform op).sources = s.sources ∧
        (s.perform op).memo.lookup (a, b) = some (s.sources.resolve a b)) ∨
      (s.perform op).memo.lookup (a, b) = none := by
  have hchange := change_perform s op
  generalize s.perform op = s' at hchange
  cases hchange with
  | extended types hext =>
      exact Or.inl ⟨types, hext, rfl, rfl⟩
  | remembered x y hpair hnew =>
      by_cases hxy : (x, y) = (a, b)
      · cases hxy
        exact Or.inr (Or.inl ⟨hpair, hnew, rfl, by simp⟩)
      · have hne : ((a, b) == (x, y)) = false :=
          beq_eq_false_iff_ne.2 (Ne.symm hxy)
        exact Or.inl ⟨s.types, Registry.Extends.refl _, rfl,
          by simp [List.lookup_cons, hne]⟩
  | renewed converters comparators hgrounded =>
      exact Or.inr (Or.inr rfl)

/-- A remembered answer is what a search in the sources of its origin finds. -/
theorem lookup_eq_resolve_origin
    {j : Journal} {found : Option Comparator}
    (h : (after j).memo.lookup (a, b) = some found) :
    found = (origin a b j).resolve a b := by
  induction j generalizing found with
  | nil =>
      simp [after, initial] at h
  | cons op earlier ih =>
      have hafter : (after (op :: earlier)).remembers a b = true := by
        simp [remembers, h]
      rcases memory_cases (after earlier) op a b with
        ⟨types, hext, hsources, hlookup⟩ | ⟨hpair, hnew, hsources, hlookup⟩ | hnone
      · have hold : (after earlier).memo.lookup (a, b) = some found := by
          rw [← hlookup]
          exact h
        have hbefore : (after earlier).remembers a b = true := by
          simp [remembers, hold]
        rw [origin_of_still_remembers hbefore hafter]
        exact ih hold
      · have hbefore : (after earlier).remembers a b = false := by
          simp [remembers, hnew]
        rw [origin_of_newly_remembers hbefore]
        have hfound : some found = some ((after earlier).sources.resolve a b) := by
          rw [← hlookup]
          exact h.symm
        rw [Option.some.inj hfound]
        exact congrArg (fun sources => Sources.resolve sources a b) hsources.symm
      · have : some found = none := h.symm.trans hnone
        cases this

/-- Every answer is what a search in the sources of its origin finds. -/
theorem comparator_eq_resolve_origin
    (j : Journal) (a b : TypeId) :
    ((after j).comparator a b).1 = (origin a b j).resolve a b := by
  cases h : (after j).memo.lookup (a, b) with
  | some found =>
      rw [comparator_of_lookup_eq_some h]
      exact lookup_eq_resolve_origin h
  | none =>
      have hnot : (after j).remembers a b = false := by
        simp [remembers, h]
      rw [comparator_of_lookup_eq_none h, origin_of_not_remembers hnot]

/-- The present sources are those of the origin of an answer, but for more types. -/
theorem sources_eq_origin_withTypes
    (j : Journal) (a b : TypeId) :
    (origin a b j).Grounded ∧
      (origin a b j).types.Extends (after j).types ∧
      (after j).sources = (origin a b j).withTypes (after j).types := by
  induction j with
  | nil =>
      exact ⟨grounded_after [], Registry.Extends.refl _, rfl⟩
  | cons op earlier ih =>
      cases hkept :
        (after earlier).remembers a b && (after (op :: earlier)).remembers a b with
      | false =>
          have horigin :
              origin a b (op :: earlier) = (after (op :: earlier)).sources := by
            simp [origin, hkept]
          rw [horigin]
          exact ⟨grounded_after _, Registry.Extends.refl _, rfl⟩
      | true =>
          obtain ⟨hbefore, hafter⟩ := Bool.and_eq_true_iff.1 hkept
          obtain ⟨hgrounded, hextends, hsame⟩ := ih
          rw [origin_of_still_remembers hbefore hafter]
          rcases memory_cases (after earlier) op a b with
            ⟨types, hext, hsources, _⟩ | ⟨_, hnew, _⟩ | hnone
          · have hnow : (after (op :: earlier)).sources =
                (after earlier).sources.withTypes types :=
              hsources
            have htypes : (after (op :: earlier)).types = types :=
              congrArg Sources.types hnow
            refine ⟨hgrounded, ?_, ?_⟩
            · rw [htypes]
              exact hextends.trans hext
            · rw [htypes, hnow, hsame]
              rfl
          · simp [remembers, hnew] at hbefore
          · have : (after (op :: earlier)).remembers a b = false := by
              simp [remembers, after, hnone]
            rw [this] at hafter
            cases hafter

/-- If a pair was only asked for when both types were registered, then they were
registered at the origin of the remembered answer. -/
theorem registered_origin
    {j : Journal}
    (hasked : AskedWhenRegistered a b j)
    (h : (after j).remembers a b = true) :
    FoundWhenRegistered a b j := by
  induction j with
  | nil =>
      simp [after, initial, remembers] at h
  | cons op earlier ih =>
      obtain ⟨hop, hearlier⟩ := hasked
      cases hbefore : (after earlier).remembers a b with
      | true =>
          rw [FoundWhenRegistered, origin_of_still_remembers hbefore h]
          exact ih hearlier hbefore
      | false =>
          rw [FoundWhenRegistered, origin_of_newly_remembers hbefore]
          rcases memory_cases (after earlier) op a b with
            ⟨types, _, _, hlookup⟩ | ⟨hpair, _, hsources, _⟩ | hnone
          · have : (after (op :: earlier)).remembers a b =
                (after earlier).remembers a b := by
              simp [remembers, after, hlookup]
            rw [this, hbefore] at h
            cases h
          · have hnow : (after (op :: earlier)).sources = (after earlier).sources :=
              hsources
            rw [hnow]
            exact hop hpair
          · have : (after (op :: earlier)).remembers a b = false := by
              simp [remembers, after, hnone]
            rw [this] at h
            cases h

/-- The search for two types that were registered when the answer for them was found out
finds the same in the present sources. -/
theorem resolve_origin_of_found
    {j : Journal}
    (hfound : FoundWhenRegistered a b j) :
    (origin a b j).resolve a b = (after j).sources.resolve a b := by
  obtain ⟨hgrounded, hextends, hsame⟩ := sources_eq_origin_withTypes j a b
  rw [hsame]
  exact (Sources.resolve_withTypes (hfound.1.agree hextends) (hfound.2.agree hextends)
    hextends hgrounded).symm

/-- If a pair was only asked for when both types were registered, then the search for it
finds the same in the present sources as at the origin of the answer. -/
theorem resolve_origin
    {j : Journal}
    (hasked : AskedWhenRegistered a b j) :
    (origin a b j).resolve a b = (after j).sources.resolve a b := by
  cases h : (after j).remembers a b with
  | false =>
      rw [origin_of_not_remembers h]
  | true =>
      exact resolve_origin_of_found (registered_origin hasked h)

end Origin

/-- What a call does to the sources does not depend on what is remembered. -/
theorem perform_sources
    (s : TypeSystem) (op : Operation) :
    (s.perform op).sources =
      if op.isRegistration then
        ((⟨s.sources, []⟩ : TypeSystem).perform op).sources
      else
        s.sources := by
  cases op with
  | registerType d =>
      cases h : s.types.register d with
      | error refusal =>
          have h' : (⟨s.sources, []⟩ : TypeSystem).types.register d = .error refusal := h
          simp [perform, registerType, Operation.isRegistration, h, h']
      | ok r =>
          have h' : (⟨s.sources, []⟩ : TypeSystem).types.register d = .ok r := h
          simp [perform, registerType, Operation.isRegistration, h, h']
  | registerConverter d =>
      have h : (⟨s.sources, []⟩ : TypeSystem).registerConverter d =
          s.registerConverter d := rfl
      simp only [perform, Operation.isRegistration, h]
      split <;> rfl
  | registerComparator d =>
      have h : (⟨s.sources, []⟩ : TypeSystem).registerComparator d =
          s.registerComparator d := rfl
      simp only [perform, Operation.isRegistration, h]
      split <;> rfl
  | deriveChains =>
      by_cases hzero : (s.sources.converters.deriveChains s.sources.types).1 = 0
      · simp [perform, deriveChains, Operation.isRegistration, converters, types, hzero]
      · simp [perform, deriveChains, Operation.isRegistration, converters, types, hzero]
  | comparator a b =>
      simp only [perform, comparator, Operation.isRegistration]
      split <;> rfl
  | compare a b =>
      cases a with
      | none =>
          rfl
      | some a =>
          cases b with
          | none =>
              rfl
          | some b =>
              simp only [perform, compare_state, remembering, comparator,
                Operation.isRegistration]
              split <;> rfl
  | ordering a b =>
      simp only [perform, ordering_state, remembering, comparator,
        Operation.isRegistration]
      split <;> rfl

/-- Queries have no influence on types, converters and comparators. -/
theorem sources_after_registrations
    (j : Journal) :
    (after (j.filter Operation.isRegistration)).sources = (after j).sources := by
  induction j with
  | nil =>
      rfl
  | cons op earlier ih =>
      have hnow : (after (op :: earlier)).sources =
          ((after earlier).perform op).sources := rfl
      rw [hnow, perform_sources]
      cases hop : op.isRegistration with
      | false =>
          rw [List.filter_cons_of_neg (by simp [hop])]
          simpa using ih
      | true =>
          rw [List.filter_cons_of_pos hop]
          have hfiltered :
              (after (op :: earlier.filter Operation.isRegistration)).sources =
                ((after (earlier.filter Operation.isRegistration)).perform op).sources :=
                  rfl
          rw [hfiltered, perform_sources, hop, ih]

theorem askedWhenRegistered_registrations
    (a b : TypeId) (j : Journal) :
    AskedWhenRegistered a b (j.filter Operation.isRegistration) := by
  induction j with
  | nil =>
      exact True.intro
  | cons op earlier ih =>
      cases hop : op.isRegistration with
      | false =>
          rw [List.filter_cons_of_neg (by simp [hop])]
          exact ih
      | true =>
          rw [List.filter_cons_of_pos hop]
          refine ⟨?_, ih⟩
          intro hpair
          cases op <;> simp [Operation.isRegistration, Operation.pair?] at hop hpair

/-- The comparator for a pair of types that was only asked for
when both were registered is the one that a search finds now,
and the one that is answered if nothing is ever asked before. -/
theorem comparator_eq_resolve
    (j : Journal) (a b : TypeId)
    (hasked : AskedWhenRegistered a b j) :
    ((after j).comparator a b).1 = (after j).sources.resolve a b ∧
      ((after j).comparator a b).1 =
        ((after (j.filter Operation.isRegistration)).comparator a b).1 := by
  have hnow : ((after j).comparator a b).1 = (after j).sources.resolve a b := by
    rw [comparator_eq_resolve_origin, resolve_origin hasked]
  refine ⟨hnow, ?_⟩
  rw [hnow, comparator_eq_resolve_origin,
    resolve_origin (askedWhenRegistered_registrations a b j),
    sources_after_registrations]

/-- Pets are asked for before and after they get a comparator; dogs are added last. -/
def petsAndDogs : Journal :=
  [.registerType { TypeDeclaration.plain "dog" "dog" with supertype := some "pet" },
   .comparator ⟨1⟩ ⟨1⟩,
   .registerComparator ⟨"pet", "pet", Standard.integers, true⟩,
   .comparator ⟨1⟩ ⟨1⟩,
   .registerType (TypeDeclaration.plain "pet" "pet")]

theorem comparator_eq_resolve_pets :
    AskedWhenRegistered ⟨1⟩ ⟨1⟩ petsAndDogs ∧
      ((after petsAndDogs).comparator ⟨1⟩ ⟨1⟩).1 =
          (after petsAndDogs).sources.resolve ⟨1⟩ ⟨1⟩ ∧
      ((after petsAndDogs).comparator ⟨1⟩ ⟨1⟩).1 =
        ((after (petsAndDogs.filter Operation.isRegistration)).comparator ⟨1⟩
          ⟨1⟩).1 := by
  have hasked : AskedWhenRegistered ⟨1⟩ ⟨1⟩ petsAndDogs := by
    decide +kernel
  exact ⟨hasked, comparator_eq_resolve petsAndDogs ⟨1⟩ ⟨1⟩ hasked⟩

end TypeSystem
end TriggerScript
