import TriggerScript.Proofs.Typing.Lineage
import TriggerScript.TypeSystem

/-!
# Calls on a type system

What each accepted registration adds, and what a query leaves behind. Later statements
rest on these descriptions instead of the definitions of the calls.
-/

namespace TriggerScript

open Typing Conversion Comparison

/-- The converter that a declaration stands for if both its types are known. -/
def Conversion.ConverterDeclaration.resolved?
    (types : Typing.Registry) (d : ConverterDeclaration) : Option DeclaredConverter :=
  (types.idOf? d.source).bind fun source =>
    (types.idOf? d.target).map fun target => ⟨source, target, d.function, d.options⟩

/-- The comparator that a declaration stands for if both its types are known. -/
def Comparison.ComparatorDeclaration.resolved?
    (types : Typing.Registry) (d : ComparatorDeclaration) : Option ComparatorEntry :=
  (types.idOf? d.first).bind fun first =>
    (types.idOf? d.second).map fun second =>
      ⟨first, second, d.function, d.supportsOrdering⟩

namespace TypeSystem

/-- The type system once a pair of types was asked for. -/
def remembering
    (s : TypeSystem) (a b : TypeId) : TypeSystem :=
  (s.comparator a b).2

theorem comparator_of_lookup_eq_some
    {s : TypeSystem} {a b : TypeId} {found : Option Comparator}
    (h : s.memo.lookup (a, b) = some found) :
    s.comparator a b = (found, s) := by
  simp [comparator, h]

theorem comparator_of_lookup_eq_none
    {s : TypeSystem} {a b : TypeId}
    (h : s.memo.lookup (a, b) = none) :
    s.comparator a b =
      (s.sources.resolve a b,
        { s with memo := ((a, b), s.sources.resolve a b) :: s.memo }) := by
  simp [comparator, h]

theorem compare_state
    (s : TypeSystem) (a b : Value) :
    (s.compare (some a) (some b)).2 = s.remembering a.typeId b.typeId := by
  unfold remembering
  rcases h : s.comparator a.typeId b.typeId with ⟨found, s'⟩
  cases found <;> simp [compare, h]

theorem ordering_state
    (s : TypeSystem) (a b : Value) :
    (s.ordering a b).2 = s.remembering a.typeId b.typeId := by
  unfold remembering
  rcases h : s.comparator a.typeId b.typeId with ⟨found, s'⟩
  cases found <;> simp [ordering, h]

theorem registerType_ok
    {s s' : TypeSystem} {d : TypeDeclaration} {id : TypeId}
    (h : s.registerType d = .ok (id, s')) :
    ∃ types,
      s.types.register d = .ok (id, types) ∧
      s' = { s with sources := { s.sources with types := types } } := by
  unfold registerType at h
  split at h
  · cases h
  · rename_i id' types hregister
    cases h
    exact ⟨types, hregister, rfl⟩

theorem registered_of_resolved?
    {types : Typing.Registry} {d : ConverterDeclaration} {c : DeclaredConverter}
    (h : d.resolved? types = some c) :
    types.Registered c.source ∧ types.Registered c.target := by
  obtain ⟨source, hsource, h⟩ := Option.bind_eq_some_iff.1 h
  obtain ⟨target, htarget, rfl⟩ := Option.map_eq_some_iff.1 h
  exact ⟨Registry.registered_of_idOf? hsource, Registry.registered_of_idOf? htarget⟩

/-- A converter is accepted if its types are known and there is none between them. -/
theorem registerConverter_eq_ok_iff
    {s s' : TypeSystem} {d : ConverterDeclaration} :
    s.registerConverter d = .ok s' ↔
      ∃ c,
        d.resolved? s.types = some c ∧
        s.converters.between? c.source c.target = none ∧
        s' = ⟨{ s.sources with converters := s.converters ++ [.declared c] }, []⟩ := by
  unfold registerConverter ConverterDeclaration.resolved? require typeId?
  cases hsource : s.types.idOf? d.source with
  | none =>
      simp [bind, Except.bind]
  | some source =>
      cases htarget : s.types.idOf? d.target with
      | none =>
          simp [bind, Except.bind]
      | some target =>
          cases hfree : s.converters.between? source target with
          | some taken =>
              simp [Conversion.Registry.add, hfree, bind, Except.bind]
          | none =>
              simp [Conversion.Registry.add, hfree, bind, Except.bind, pure, Except.pure,
                eq_comm]

theorem registerConverter_ok
    {s s' : TypeSystem} {d : ConverterDeclaration}
    (h : s.registerConverter d = .ok s') :
    ∃ c : DeclaredConverter,
      s.types.Registered c.source ∧
      s.types.Registered c.target ∧
      s.converters.between? c.source c.target = none ∧
      s' = ⟨{ s.sources with converters := s.converters ++ [.declared c] }, []⟩ := by
  obtain ⟨c, hresolved, hfree, rfl⟩ := registerConverter_eq_ok_iff.1 h
  obtain ⟨hsource, htarget⟩ := registered_of_resolved? hresolved
  exact ⟨c, hsource, htarget, hfree, rfl⟩

/-- A comparator is accepted if its types are known, not both the universal one, and no
comparator is declared for exactly them. -/
theorem registerComparator_eq_ok_iff
    {s s' : TypeSystem} {d : ComparatorDeclaration} :
    s.registerComparator d = .ok s' ↔
      ∃ e,
        d.resolved? s.types = some e ∧
        ¬(e.first = TypeId.object ∧ e.second = TypeId.object) ∧
        s.hasComparator e.first e.second = false ∧
        s' = ⟨{ s.sources with comparators := s.comparators ++ [e] }, []⟩ := by
  unfold registerComparator ComparatorDeclaration.resolved? require typeId?
  cases hfirst : s.types.idOf? d.first with
  | none =>
      simp [bind, Except.bind]
  | some first =>
      cases hsecond : s.types.idOf? d.second with
      | none =>
          simp [bind, Except.bind]
      | some second =>
          simp only [bind, Except.bind, pure, Except.pure, throw, throwThe,
            MonadExceptOf.throw, Option.bind_some, Option.map_some,
            Option.some.injEq, exists_eq_left']
          by_cases huniversal : first = TypeId.object ∧ second = TypeId.object
          · simp [huniversal]
          · cases htaken : s.hasComparator first second with
            | true =>
                simp [huniversal]
            | false =>
                simp [huniversal, eq_comm]

/-- A comparator that is accepted is the one that the declaration stands for. -/
theorem resolved?_of_registerComparator
    {s s' : TypeSystem} {d : ComparatorDeclaration}
    (h : s.registerComparator d = .ok s') :
    ∃ e,
      d.resolved? s.types = some e ∧
      s' = ⟨{ s.sources with comparators := s.comparators ++ [e] }, []⟩ := by
  obtain ⟨e, hresolved, -, -, rfl⟩ := registerComparator_eq_ok_iff.1 h
  exact ⟨e, hresolved, rfl⟩

theorem registerComparator_ok
    {s s' : TypeSystem} {d : ComparatorDeclaration}
    (h : s.registerComparator d = .ok s') :
    ∃ e : ComparatorEntry,
      s.types.Registered e.first ∧
      s.types.Registered e.second ∧
      s' = ⟨{ s.sources with comparators := s.comparators ++ [e] }, []⟩ := by
  obtain ⟨e, hresolved, rfl⟩ := resolved?_of_registerComparator h
  obtain ⟨first, hfirst, hresolved⟩ := Option.bind_eq_some_iff.1 hresolved
  obtain ⟨second, hsecond, rfl⟩ := Option.map_eq_some_iff.1 hresolved
  exact ⟨_, Registry.registered_of_idOf? hfirst,
    Registry.registered_of_idOf? hsecond, rfl⟩

end TypeSystem
end TriggerScript
