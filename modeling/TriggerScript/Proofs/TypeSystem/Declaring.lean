import TriggerScript.Proofs.Conversion.Chaining
import TriggerScript.Proofs.TypeSystem.Soundness

/-!
# Converters of a type system

Converters come from two kinds of calls: one is declared, unless there is one between its
types, or the missing chains are added. Either way the new ones are put behind those that
are there.
-/

namespace TriggerScript
namespace TypeSystem

open Typing Conversion Comparison

/-- A declared converter is added if its types are
known and there is none between them. -/
theorem converters_perform_registerConverter
    (s : TypeSystem) (d : ConverterDeclaration) :
    (s.perform (.registerConverter d)).converters =
      (d.resolved? s.types).elim s.converters fun c =>
        s.converters.addNew (.declared c) := by
  rw [perform]
  cases h : s.registerConverter d with
  | ok s' =>
      obtain ⟨c, hresolved, hfree, rfl⟩ := registerConverter_eq_ok_iff.1 h
      rw [hresolved, Option.elim_some, Conversion.Registry.addNew]
      simp only [Converter.source, Converter.target, hfree]
      rfl
  | error refusal =>
      cases hresolved : d.resolved? s.types with
      | none =>
          rfl
      | some c =>
          -- it was refused, so there is a converter between its types
          cases hfree : s.converters.between? c.source c.target with
          | none =>
              have haccepted := registerConverter_eq_ok_iff.2 ⟨c, hresolved, hfree, rfl⟩
              rw [h] at haccepted
              cases haccepted
          | some taken =>
              rw [Option.elim_some, Conversion.Registry.addNew]
              simp only [Converter.source, Converter.target, hfree]

theorem converters_performAll_registerConverter
    (s : TypeSystem) (ds : List ConverterDeclaration) :
    (s.performAll (ds.map .registerConverter)).converters =
      ((ds.filterMap (ConverterDeclaration.resolved? s.types)).map
        Converter.declared).foldl Conversion.Registry.addNew s.converters := by
  induction ds generalizing s with
  | nil =>
      rfl
  | cons d ds ih =>
      have hstep : s.performAll ((d :: ds).map .registerConverter) =
          (s.perform (.registerConverter d)).performAll (ds.map .registerConverter) :=
        rfl
      have htypes : (s.perform (.registerConverter d)).types = s.types :=
        (registerConverter_keeps s d).1
      rw [hstep, ih, htypes, converters_perform_registerConverter, List.filterMap_cons]
      cases d.resolved? s.types <;> rfl

theorem converters_deriveChains
    (s : TypeSystem) :
    s.deriveChains.2.converters = s.converters.withChains s.types := by
  unfold deriveChains
  dsimp only
  split
  · rename_i hnone
    exact (Conversion.Registry.withChains_of_deriveChains_eq_zero hnone).symm
  · rfl

/-- Chains are no declared converters. -/
theorem declared_deriveChains
    (s : TypeSystem) :
    s.deriveChains.2.converters.declared = s.converters.declared := by
  rw [converters_deriveChains]
  exact Conversion.Registry.declared_withChains s.converters s.types

end TypeSystem
end TriggerScript
