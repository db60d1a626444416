import Mathlib.Order.Preorder.Chain
import TriggerScript.Proofs.Typing.Lineage

/-!
# The order of types

Types are ordered by what they can be used as. The types from one type upwards are the
end of the lineage of every type below it, so that being below is a partial order in
which whatever is above a type forms a chain. Supertypes are registered before the types
below them: looking for a type from another one upwards comes to an end, whatever was
declared.
-/

namespace TriggerScript
namespace Typing
namespace Registry

variable {r : Registry} {a b c target : TypeId}

section Lineages

/-- The types from one of a lineage upwards are the end of it. -/
theorem lineage_isSuffix
    (h : a ∈ r.lineage b) :
    r.lineage a <:+ r.lineage b := by
  induction hn : b.raw using Nat.strongRecOn generalizing b with
  | ind n ih =>
      cases habove : r.supertype? b with
      | none =>
          rw [lineage_of_supertype?_eq_none habove, List.mem_singleton] at h
          subst h
          exact List.suffix_rfl
      | some above =>
          have hlt := r.supertype_lt b above habove
          have hlineage := lineage_of_supertype?_eq_some habove
          rw [hlineage] at h
          rcases List.mem_cons.1 h with rfl | h
          · exact List.suffix_rfl
          · rw [hlineage]
            exact (ih above.raw (by omega) h rfl).trans (List.suffix_cons _ _)

theorem mem_lineage_iff :
    a ∈ r.lineage b ↔ r.lineage a <:+ r.lineage b := by
  refine ⟨lineage_isSuffix, ?_⟩
  intro h
  exact h.subset (mem_lineage_self r a)

theorem eq_of_lineage_eq
    (h : r.lineage a = r.lineage b) :
    a = b := by
  obtain ⟨above, ha⟩ := lineage_eq_cons r a
  obtain ⟨above', hb⟩ := lineage_eq_cons r b
  rw [ha, hb] at h
  exact (List.cons.inj h).1

/-- Nothing is above the universal type, which comes before all others. -/
theorem lineage_object
    (r : Registry) :
    r.lineage TypeId.object = [TypeId.object] := by
  refine lineage_of_supertype?_eq_none ?_
  cases h : r.supertype? TypeId.object with
  | none =>
      rfl
  | some above =>
      exact absurd (r.supertype_lt _ _ h) (Nat.not_lt_zero _)

/-- A lineage has no more types than are registered, if there are any. -/
theorem length_lineage_le
    (hr : 0 < r.size) (id : TypeId) :
    (r.lineage id).length ≤ r.size := by
  by_cases hid : r.Registered id
  · suffices h : (r.lineage id).length ≤ id.raw + 1 by
      exact Nat.le_trans h hid
    clear hid
    induction hn : id.raw using Nat.strongRecOn generalizing id with
    | ind n ih =>
        cases habove : r.supertype? id with
        | none =>
            rw [lineage_of_supertype?_eq_none habove, List.length_singleton]
            omega
        | some above =>
            have hlt := r.supertype_lt id above habove
            have hlength := ih above.raw (by omega) above rfl
            rw [lineage_of_supertype?_eq_some habove, List.length_cons]
            omega
  · rw [lineage_of_not_registered hid]
    exact hr

end Lineages

/-- Whether one type is another one or below it:
its values can be used as values of the other. -/
def Below
    (r : Registry) (a b : TypeId) : Prop :=
  r.isAssignable b a = true

theorem below_iff :
    r.Below a b ↔ b = TypeId.object ∨ b ∈ r.lineage a := by
  simp [Below, isAssignable]

theorem below_object
    (r : Registry) (a : TypeId) :
    r.Below a TypeId.object := by
  exact below_iff.2 (Or.inl rfl)

theorem eq_object_of_object_below
    (h : r.Below TypeId.object a) :
    a = TypeId.object := by
  rw [below_iff, lineage_object, List.mem_singleton] at h
  exact h.elim id id

theorem Below.trans
    (hab : r.Below a b)
    (hbc : r.Below b c) :
    r.Below a c := by
  rcases below_iff.1 hab with rfl | hab
  · rw [eq_object_of_object_below hbc]
    exact below_object r a
  · rcases below_iff.1 hbc with rfl | hbc
    · exact below_object r a
    · exact below_iff.2 (Or.inr ((lineage_isSuffix hab).subset hbc))

theorem Below.antisymm
    (hab : r.Below a b)
    (hba : r.Below b a) :
    a = b := by
  rcases below_iff.1 hab with rfl | hab
  · exact eq_object_of_object_below hba
  · rcases below_iff.1 hba with rfl | hba
    · exact (eq_object_of_object_below (below_iff.2 (Or.inr hab))).symm
    · have hsuffix := lineage_isSuffix hba
      exact eq_of_lineage_eq (hsuffix.eq_of_length_le (lineage_isSuffix hab).length_le)

/-- What is above a type is above one another. -/
theorem Below.total
    (hb : r.Below a b)
    (hc : r.Below a c) :
    r.Below b c ∨ r.Below c b := by
  rcases below_iff.1 hb with rfl | hb
  · exact Or.inr (below_object r c)
  · rcases below_iff.1 hc with rfl | hc
    · exact Or.inl (below_object r b)
    · -- both lineages are ends of the same one
      rcases List.suffix_or_suffix_of_suffix (lineage_isSuffix hb)
        (lineage_isSuffix hc) with h | h
      · exact Or.inr (below_iff.2 (Or.inr (mem_lineage_iff.2 h)))
      · exact Or.inl (below_iff.2 (Or.inr (mem_lineage_iff.2 h)))

theorem isPartialOrder_below
    (r : Registry) :
    IsPartialOrder TypeId r.Below where
  refl := isAssignable_self r
  trans := fun _ _ _ => Below.trans
  antisymm := fun _ _ => Below.antisymm

section Search

/-- The search for a type from another one upwards, turn by turn: how many turns it takes
until it is over, and its answer. -/
inductive Search
    (r : Registry) (target : TypeId) : Option TypeId → Nat → Bool → Prop
  | exhausted :
      Search r target none 0 false
  | found :
      Search r target (some target) 1 true
  | upwards
      {id : TypeId} {turns : Nat} {answer : Bool}
      (hne : id ≠ target)
      (habove : Search r target (r.supertype? id) turns answer) :
      Search r target (some id) (turns + 1) answer

/-- The search comes to an end, within the lineage of the type that it starts from. -/
theorem search_lineage
    (r : Registry) (target source : TypeId) :
    ∃ turns ≤ (r.lineage source).length,
      Search r target (some source) turns ((r.lineage source).contains target) := by
  induction hn : source.raw using Nat.strongRecOn generalizing source with
  | ind n ih =>
      by_cases heq : source = target
      · subst heq
        obtain ⟨above, hlineage⟩ := lineage_eq_cons r source
        refine ⟨1, ?_, ?_⟩
        · simp [hlineage]
        · simpa [hlineage] using Search.found
      · cases habove : r.supertype? source with
        | none =>
            rw [lineage_of_supertype?_eq_none habove]
            refine ⟨1, Nat.le_refl _, ?_⟩
            have hsearch : Search r target (r.supertype? source) 0 false := by
              rw [habove]
              exact .exhausted
            simpa [Ne.symm heq] using Search.upwards heq hsearch
        | some above =>
            have hlt := r.supertype_lt source above habove
            obtain ⟨turns, hturns, hsearch⟩ := ih above.raw (by omega) above rfl
            rw [← habove] at hsearch
            rw [lineage_of_supertype?_eq_some habove]
            refine ⟨turns + 1, Nat.succ_le_succ hturns, ?_⟩
            simpa [Ne.symm heq] using Search.upwards heq hsearch

/-- The search can only go one way. -/
theorem Search.unique
    {start : Option TypeId} {turns turns' : Nat} {answer answer' : Bool}
    (h : Search r target start turns answer)
    (h' : Search r target start turns' answer') :
    turns' = turns ∧ answer' = answer := by
  induction h generalizing turns' with
  | exhausted =>
      cases h'
      exact ⟨rfl, rfl⟩
  | found =>
      cases h' with
      | found =>
          exact ⟨rfl, rfl⟩
      | upwards hne habove =>
          exact absurd rfl hne
  | upwards hne habove ih =>
      cases h' with
      | found =>
          exact absurd rfl hne
      | upwards hne' habove' =>
          obtain ⟨rfl, rfl⟩ := ih habove'
          exact ⟨rfl, rfl⟩

/-- For a type that is not the universal one, what
a type can be used as is found out by a search. -/
theorem search_iff
    {source : TypeId}
    (hr : 0 < r.size)
    (htarget : target ≠ TypeId.object) :
    ∃ turns ≤ r.size, ∀ n answer,
      Search r target (some source) n answer ↔
        n = turns ∧ answer = r.isAssignable target source := by
  obtain ⟨turns, hturns, hsearch⟩ := search_lineage r target source
  have hanswer : r.isAssignable target source = (r.lineage source).contains target := by
    simp [isAssignable, htarget]
  refine ⟨turns, Nat.le_trans hturns (length_lineage_le hr source), ?_⟩
  intro n answer
  rw [hanswer]
  constructor
  · exact hsearch.unique
  · rintro ⟨rfl, rfl⟩
    exact hsearch

end Search

/-- The registry after a declaration; a refused one changes nothing. -/
def declare
    (r : Registry) (d : TypeDeclaration) : Registry :=
  match r.register d with
  | .ok (_, r') => r'
  | .error _ => r

/-- The registry after several declarations, the first of them first. -/
def declareAll
    (r : Registry) (ds : List TypeDeclaration) : Registry :=
  ds.foldl declare r

theorem extends_declare
    (r : Registry) (d : TypeDeclaration) :
    r.Extends (r.declare d) := by
  unfold declare
  split
  · rename_i id r' hregister
    exact extends_of_register_ok hregister
  · exact Extends.refl r

theorem extends_declareAll
    (r : Registry) (ds : List TypeDeclaration) :
    r.Extends (r.declareAll ds) := by
  refine List.foldlRecOn ds declare (Extends.refl r) ?_
  intro r' hr' d _
  exact hr'.trans (extends_declare r' d)

/-- Whatever types were declared, accepted or refused: looking for a type from another
one upwards is over after at most as many turns as there are types, with the answer
whether the one can be used as the other; being usable as is a partial order with the
universal type above everything, in which the types above any type form a chain; and
declaring more types changes nothing between types that are registered. -/
theorem isAssignable_order
    (ds : List TypeDeclaration) :
    let r := initial.declareAll ds
    (∀ target source, target ≠ TypeId.object →
      ∃ turns ≤ r.size, ∀ n answer,
        Search r target (some source) n answer ↔
          n = turns ∧ answer = r.isAssignable target source) ∧
      IsPartialOrder TypeId r.Below ∧
      (∀ a, r.Below a TypeId.object) ∧
      (∀ a, IsChain r.Below {b | r.Below a b}) ∧
      ∀ more a b, r.Registered a → r.Registered b →
        (r.declareAll more).isAssignable b a = r.isAssignable b a := by
  intro r
  have hobject : initial.Registered TypeId.object := Nat.zero_lt_one
  have hr : 0 < r.size := hobject.of_extends (extends_declareAll initial ds)
  refine ⟨?_, isPartialOrder_below r, below_object r, ?_, ?_⟩
  · intro target source htarget
    exact search_iff hr htarget
  · intro a b hb c hc _
    exact Below.total hb hc
  · intro more a b ha _
    exact isAssignable_of_extends (extends_declareAll r more) ha b

/-- Pets and dogs, a type whose supertype is unknown, and the name of dogs once more. -/
def household : List TypeDeclaration :=
  [TypeDeclaration.plain "pet" "pet",
   { TypeDeclaration.plain "dog" "dog" with supertype := some "pet" },
   { TypeDeclaration.plain "cat" "cat" with supertype := some "feline" },
   TypeDeclaration.plain "Dog" "hound"]

/-- Dogs are pets, which is found out in at most three turns, but pets are no dogs; and
dogs remain pets when puppies are declared. -/
theorem isAssignable_order_household :
    let r := initial.declareAll household
    r.size = 3 ∧ r.Registered ⟨1⟩ ∧ r.Registered ⟨2⟩ ∧ (⟨1⟩ : TypeId) ≠ TypeId.object ∧
      (∃ turns ≤ 3, Search r ⟨1⟩ (some ⟨2⟩) turns true) ∧
      r.Below ⟨2⟩ ⟨1⟩ ∧ ¬r.Below ⟨1⟩ ⟨2⟩ ∧
      (r.declareAll
        [{ TypeDeclaration.plain "puppy" "puppy" with
            supertype := some "dog" }]).isAssignable ⟨1⟩ ⟨2⟩ = true := by
  intro r
  obtain ⟨hsize, hpet, hdog, hbelow⟩ :
      r.size = 3 ∧ r.Registered ⟨1⟩ ∧ r.Registered ⟨2⟩ ∧
        r.isAssignable ⟨1⟩ ⟨2⟩ = true := by
    decide +kernel
  have hne : (⟨1⟩ : TypeId) ≠ TypeId.object := by decide
  obtain ⟨hsearch, horder, -, -, hkept⟩ := isAssignable_order household
  refine ⟨hsize, hpet, hdog, hne, ?_, hbelow, ?_, ?_⟩
  · obtain ⟨turns, hturns, honly⟩ := hsearch ⟨1⟩ ⟨2⟩ hne
    exact ⟨turns, hsize ▸ hturns, (honly turns true).2 ⟨rfl, hbelow.symm⟩⟩
  · intro habove
    exact absurd (horder.antisymm _ _ habove hbelow) (by decide)
  · exact (hkept _ ⟨2⟩ ⟨1⟩ hdog hpet).trans hbelow

end Registry
end Typing
end TriggerScript
