import TriggerScript.Conversion.Registry

/-!
# What chaining adds

Adding the missing chains keeps every converter that there was, and every chain that it
adds is made of two declared converters of the registry.
-/

namespace TriggerScript
namespace Conversion
namespace Registry

theorem mem_declared_iff
    {r : Registry} {d : DeclaredConverter} :
    d ∈ r.declared ↔ Converter.declared d ∈ r := by
  constructor
  · intro hd
    obtain ⟨c, hc, hcd⟩ := List.mem_filterMap.1 hd
    cases c with
    | declared d' =>
        cases hcd
        exact hc
    | chained first second =>
        cases hcd
  · intro hd
    exact List.mem_filterMap.2 ⟨.declared d, hd, rfl⟩

/-- The chains that may be formed. -/
theorem mem_chains_iff
    {r : Registry} {types : Typing.Registry} {c : Converter} :
    c ∈ r.chains types ↔
      ∃ first second,
        (Converter.declared first ∈ r ∧ first.chainsOnRight = true) ∧
        (Converter.declared second ∈ r ∧ second.chainsOnLeft = true) ∧
        canFollow types first second = true ∧
        c = .chained first second := by
  simp only [chains, List.mem_flatMap, List.mem_map, List.mem_filter, mem_declared_iff]
  constructor
  · rintro ⟨first, hfirst, second, ⟨hsecond, hfollow⟩, rfl⟩
    exact ⟨first, second, hfirst, hsecond, hfollow, rfl⟩
  · rintro ⟨first, second, hfirst, hsecond, hfollow, rfl⟩
    exact ⟨first, hfirst, second, ⟨hsecond, hfollow⟩, rfl⟩

/-- Both parts of a chain are declared converters of the registry. -/
theorem mem_chains
    {r : Registry} {types : Typing.Registry} {c : Converter}
    (h : c ∈ r.chains types) :
    ∃ first second,
      Converter.declared first ∈ r ∧
      Converter.declared second ∈ r ∧
      c = .chained first second := by
  obtain ⟨first, second, ⟨hfirst, _⟩, ⟨hsecond, _⟩, _, rfl⟩ := mem_chains_iff.1 h
  exact ⟨first, second, hfirst, hsecond, rfl⟩

/-- Converters are added behind those that are there. -/
theorem prefix_addNew
    (r : Registry) (c : Converter) :
    r <+: r.addNew c := by
  unfold addNew
  split
  · exact List.prefix_rfl
  · exact List.prefix_append r [c]

theorem prefix_foldl_addNew
    (cs : List Converter) (r : Registry) :
    r <+: cs.foldl addNew r := by
  induction cs generalizing r with
  | nil =>
      exact List.prefix_rfl
  | cons c cs ih =>
      exact (prefix_addNew r c).trans (ih (r.addNew c))

/-- Adding new converters drops none. -/
theorem mem_foldl_addNew_of_mem
    {cs : List Converter} {r : Registry} {c : Converter}
    (h : c ∈ r) :
    c ∈ cs.foldl addNew r := by
  exact (prefix_foldl_addNew cs r).subset h

theorem mem_foldl_addNew
    {cs : List Converter} {r : Registry} {c : Converter}
    (h : c ∈ cs.foldl addNew r) :
    c ∈ r ∨ c ∈ cs := by
  induction cs generalizing r with
  | nil =>
      exact Or.inl h
  | cons new cs ih =>
      rw [List.foldl_cons] at h
      rcases ih h with hc | hc
      · unfold addNew at hc
        split at hc
        · exact Or.inl hc
        · rcases List.mem_append.1 hc with hc | hc
          · exact Or.inl hc
          · rw [List.mem_singleton] at hc
            subst hc
            exact Or.inr List.mem_cons_self
      · exact Or.inr (List.mem_cons_of_mem new hc)

theorem declared_append
    (r r' : Registry) :
    Registry.declared (r ++ r') = r.declared ++ r'.declared := by
  exact List.filterMap_append

/-- What is added as a chain is no declared converter. -/
theorem declared_withChains
    (r : Registry) (types : Typing.Registry) :
    (r.withChains types).declared = r.declared := by
  refine List.foldlRecOn (motive := fun r' : Registry => r'.declared = r.declared)
    (r.chains types) addNew rfl ?_
  intro r' hr' c hc
  obtain ⟨first, second, -, -, rfl⟩ := mem_chains hc
  unfold addNew
  split
  · exact hr'
  · rw [declared_append, hr']
    exact List.append_nil _

theorem between?_addNew
    (r : Registry) (c : Converter) (a b : TypeId) :
    (r.addNew c).between? a b =
      (r.between? a b).or (if c.connects a b then some c else none) := by
  unfold addNew
  cases htaken : r.between? c.source c.target with
  | none =>
      simp [between?, List.find?_append, List.find?_singleton]
  | some taken =>
      by_cases hconnects : c.connects a b = true
      · -- the converter that was there connects the same types
        obtain ⟨rfl, rfl⟩ : c.source = a ∧ c.target = b := by
          simpa [Converter.connects] using hconnects
        simp [htaken]
      · simp [hconnects]

/-- The converter between two types is the one that
was there, or else the first one that was added. -/
theorem between?_foldl_addNew
    (cs : List Converter) (r : Registry) (a b : TypeId) :
    Registry.between? (cs.foldl addNew r) a b =
      (r.between? a b).or (cs.find? fun c => c.connects a b) := by
  induction cs generalizing r with
  | nil =>
      simp
  | cons c cs ih =>
      rw [List.foldl_cons, ih, between?_addNew, Option.or_assoc, List.find?_cons]
      cases c.connects a b <;> simp

theorem find?_of_between?
    {r : Registry} {a b : TypeId} {c : Converter}
    (h : r.between? a b = some c)
    (types : Typing.Registry) :
    r.find? types a b = some c := by
  simp [Registry.find?, findWhere?, h, Option.filter]

/-- If no chain is missing, none is added. -/
theorem withChains_of_deriveChains_eq_zero
    {r : Registry} {types : Typing.Registry}
    (h : (r.deriveChains types).1 = 0) :
    r.withChains types = r := by
  have hbehind : r <+: r.withChains types := prefix_foldl_addNew _ r
  have hcount : (r.withChains types).length - r.length = 0 := h
  exact (hbehind.eq_of_length_le (by omega)).symm

end Registry
end Conversion
end TriggerScript
