import TriggerScript.Proofs.Comparison.Acceptance
import TriggerScript.Proofs.TypeSystem.Memo

/-!
# How type systems grow

Types, converters and comparators are only ever added, each kind of call in its own way.
Whatever holds of the sources of all type systems is shown once for each of these ways.
-/

namespace TriggerScript
namespace TypeSystem

open Typing Conversion Comparison

/-- What a call can add to the sources of a type system. -/
inductive Growth
    (s : Sources) : Sources → Prop
  /-- Nothing is added: a query, or a registration that was refused. -/
  | unchanged :
      Growth s s
  | types
      (types : Typing.Registry)
      (hext : s.types.Extends types) :
      Growth s (s.withTypes types)
  | converter
      (c : DeclaredConverter)
      (hsource : s.types.Registered c.source)
      (htarget : s.types.Registered c.target)
      (hfree : s.converters.between? c.source c.target = none) :
      Growth s { s with converters := s.converters ++ [.declared c] }
  | comparator
      (e : ComparatorEntry)
      (hfirst : s.types.Registered e.first)
      (hsecond : s.types.Registered e.second) :
      Growth s { s with comparators := s.comparators ++ [e] }
  | chains :
      Growth s { s with converters := s.converters.withChains s.types }

/-- Everything that a call can do to the sources. -/
theorem growth_perform
    (s : TypeSystem) (op : Operation) :
    Growth s.sources (s.perform op).sources := by
  cases op with
  | registerType d =>
      cases h : s.registerType d with
      | error refusal =>
          simp only [perform, h]
          exact .unchanged
      | ok r =>
          obtain ⟨id, s'⟩ := r
          obtain ⟨types, hregister, rfl⟩ := registerType_ok h
          simp only [perform, h]
          exact .types types (Registry.extends_of_register_ok hregister)
  | registerConverter d =>
      cases h : s.registerConverter d with
      | error refusal =>
          simp only [perform, h]
          exact .unchanged
      | ok s' =>
          obtain ⟨c, hsource, htarget, hfree, rfl⟩ := registerConverter_ok h
          simp only [perform, h]
          exact .converter c hsource htarget hfree
  | registerComparator d =>
      cases h : s.registerComparator d with
      | error refusal =>
          simp only [perform, h]
          exact .unchanged
      | ok s' =>
          obtain ⟨e, hfirst, hsecond, rfl⟩ := registerComparator_ok h
          simp only [perform, h]
          exact .comparator e hfirst hsecond
  | deriveChains =>
      simp only [perform, deriveChains]
      split
      · exact .unchanged
      · exact .chains
  | comparator a b =>
      rw [perform_sources]
      exact .unchanged
  | compare a b =>
      rw [perform_sources]
      exact .unchanged
  | ordering a b =>
      rw [perform_sources]
      exact .unchanged

/-- What holds at first, and after whatever is added, holds of all type systems. -/
theorem sources_induction
    {P : Sources → Prop}
    (hinitial : P initial.sources)
    (hgrowth : ∀ s s', Growth s s' → P s → P s')
    (j : Journal) :
    P (after j).sources := by
  induction j with
  | nil =>
      exact hinitial
  | cons op earlier ih =>
      exact hgrowth _ _ (growth_perform (after earlier) op) ih

/-- Converters that are added behind others are coupled if the added ones are. -/
theorem coupled_append
    {s : Sources} {converters : Conversion.Registry}
    (h : s.Coupled)
    (hkept : ∀ c ∈ s.converters, c ∈ converters)
    (hadded : ∀ c ∈ converters, c ∈ s.converters ∨ c.isDerived = false ∨
      c ∈ s.converters.chains s.types) :
    Sources.Coupled { s with converters := converters } := by
  intro first second hmem
  rcases hadded _ hmem with hold | hdeclared | hchain
  · obtain ⟨hfirst, hsecond, hfit⟩ := h first second hold
    exact ⟨hkept _ hfirst, hkept _ hsecond, hfit⟩
  · cases hdeclared
  · obtain ⟨first', second', ⟨hfirst, _⟩, ⟨hsecond, _⟩, hfollow, hsame⟩ :=
      Conversion.Registry.mem_chains_iff.1 hchain
    cases hsame
    simp only [Conversion.Registry.canFollow, Bool.and_eq_true] at hfollow
    exact ⟨hkept _ hfirst, hkept _ hsecond, hfollow.2⟩

theorem Growth.coupled
    {s s' : Sources}
    (h : Growth s s')
    (hcoupled : s.Coupled) :
    s'.Coupled := by
  cases h with
  | unchanged =>
      exact hcoupled
  | types types hext =>
      exact hcoupled.withTypes hext
  | converter c hsource htarget hfree =>
      refine coupled_append hcoupled ?_ ?_
      · intro c' hc'
        exact List.mem_append_left _ hc'
      · intro c' hc'
        rcases List.mem_append.1 hc' with hc' | hc'
        · exact Or.inl hc'
        · rw [List.mem_singleton.1 hc']
          exact Or.inr (Or.inl rfl)
  | comparator e hfirst hsecond =>
      exact hcoupled
  | chains =>
      refine coupled_append hcoupled ?_ ?_
      · intro c hc
        exact Conversion.Registry.mem_foldl_addNew_of_mem hc
      · intro c hc
        rcases Conversion.Registry.mem_foldl_addNew hc with hc | hc
        · exact Or.inl hc
        · exact Or.inr (Or.inr hc)

/-- In every type system the chains are made of declared converters that fit together. -/
theorem coupled_after
    (j : Journal) :
    (after j).sources.Coupled := by
  refine sources_induction ?_ (fun s s' h => h.coupled) j
  intro first second hmem
  cases hmem

end TypeSystem
end TriggerScript
