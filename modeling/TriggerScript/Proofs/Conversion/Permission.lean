import TriggerScript.Proofs.Conversion.Choice

/-!
# Converters that serve to compare values

A converter may be declared not to serve for comparisons, and a chain only serves if both
of its parts do. Only converters that serve are found for a comparison, and which one is
found does not depend on the functions of the others: these can be silenced, in every
converter and chain at once.
-/

namespace TriggerScript
namespace Conversion

/-- The declared converters whose functions a converter calls. -/
def Converter.parts : Converter → List DeclaredConverter
  | .declared c => [c]
  | .chained first second => [first, second]

/-- A chain that serves to compare values has no part that does not. -/
theorem Converter.noComparison_of_mem_parts
    {c : Converter} {part : DeclaredConverter}
    (h : c.options.noComparison = false)
    (hpart : part ∈ c.parts) :
    part.options.noComparison = false := by
  cases c with
  | declared c =>
      rw [List.mem_singleton.1 hpart]
      exact h
  | chained first second =>
      obtain ⟨hfirst, hsecond⟩ := Bool.or_eq_false_iff.1 h
      rcases List.mem_cons.1 hpart with rfl | hpart
      · exact hfirst
      · rw [List.mem_singleton.1 hpart]
        exact hsecond

namespace DeclaredConverter

/-- The same converter, with a function that always
fails if it must not be used to compare values. -/
def silenced
    (c : DeclaredConverter) : DeclaredConverter :=
  { c with function := if c.options.noComparison then fun _ => none else c.function }

@[simp] theorem silenced_source
    (c : DeclaredConverter) :
    c.silenced.source = c.source := by
  rfl

@[simp] theorem silenced_target
    (c : DeclaredConverter) :
    c.silenced.target = c.target := by
  rfl

@[simp] theorem silenced_options
    (c : DeclaredConverter) :
    c.silenced.options = c.options := by
  rfl

theorem silenced_of_noComparison_eq_false
    {c : DeclaredConverter}
    (h : c.options.noComparison = false) :
    c.silenced = c := by
  simp [silenced, h]

end DeclaredConverter

namespace Converter

/-- The same converter with its parts silenced. -/
def silenced : Converter → Converter
  | .declared c => .declared c.silenced
  | .chained first second => .chained first.silenced second.silenced

@[simp] theorem silenced_source
    (c : Converter) :
    c.silenced.source = c.source := by
  cases c <;> rfl

@[simp] theorem silenced_target
    (c : Converter) :
    c.silenced.target = c.target := by
  cases c <;> rfl

@[simp] theorem silenced_options
    (c : Converter) :
    c.silenced.options = c.options := by
  cases c <;> rfl

theorem silenced_connects
    (c : Converter) (source target : TypeId) :
    c.silenced.connects source target = c.connects source target := by
  cases c <;> rfl

theorem silenced_declared?
    (c : Converter) :
    c.silenced.declared? = c.declared?.map DeclaredConverter.silenced := by
  cases c <;> rfl

theorem silenced_of_noComparison_eq_false
    {c : Converter}
    (h : c.options.noComparison = false) :
    c.silenced = c := by
  cases c with
  | declared c =>
      simp only [silenced, DeclaredConverter.silenced_of_noComparison_eq_false h]
  | chained first second =>
      obtain ⟨hfirst, hsecond⟩ := Bool.or_eq_false_iff.1 h
      simp only [silenced, DeclaredConverter.silenced_of_noComparison_eq_false hfirst,
        DeclaredConverter.silenced_of_noComparison_eq_false hsecond]

end Converter

namespace Registry

variable {r : Registry} {types : Typing.Registry} {source target : TypeId}

/-- The same converters, silenced. -/
def silenced
    (r : Registry) : Registry :=
  r.map Converter.silenced

theorem noComparison_of_findForComparison?
    {c : Converter}
    (h : r.findForComparison? types source target = some c) :
    c.options.noComparison = false := by
  obtain ⟨-, haccepted, -⟩ := findWhere?_spec h
  simpa using haccepted

theorem between?_silenced
    (r : Registry) (source target : TypeId) :
    r.silenced.between? source target =
      (r.between? source target).map Converter.silenced := by
  simp only [silenced, between?, List.find?_map, Function.comp_def,
    Converter.silenced_connects]

theorem add_silenced
    (r : Registry) (types : Typing.Registry) (c : DeclaredConverter) :
    r.silenced.add types c.silenced = (r.add types c).map silenced := by
  unfold add
  rw [between?_silenced, DeclaredConverter.silenced_source,
    DeclaredConverter.silenced_target]
  cases r.between? c.source c.target with
  | some taken =>
      rfl
  | none =>
      simp [silenced, Converter.silenced, Except.map]

/-- Which converter is found for a comparison does not depend on what is silenced. -/
theorem findForComparison?_silenced
    (r : Registry) (types : Typing.Registry) (source target : TypeId) :
    r.silenced.findForComparison? types source target =
      r.findForComparison? types source target := by
  have hmap :
      r.silenced.findForComparison? types source target =
        (r.findForComparison? types source target).map Converter.silenced := by
    unfold findForComparison? findWhere?
    rw [between?_silenced, silenced, List.find?_map]
    simp only [Function.comp_def, serves, Converter.silenced_source,
      Converter.silenced_target, Converter.silenced_options]
    cases r.between? source target with
    | none =>
        rfl
    | some c =>
        cases hserves : c.options.noComparison <;>
          simp [Option.filter_some, hserves]
  rw [hmap]
  cases hfound : r.findForComparison? types source target with
  | none =>
      rfl
  | some c =>
      have hserves := noComparison_of_findForComparison? hfound
      simp only [Option.map_some, Converter.silenced_of_noComparison_eq_false hserves]

theorem declared_silenced
    (r : Registry) :
    r.silenced.declared = r.declared.map DeclaredConverter.silenced := by
  simp only [silenced, declared, List.filterMap_map, List.map_filterMap,
    Function.comp_def, Converter.silenced_declared?]

/-- The chains of silenced converters are the silenced chains. -/
theorem chains_silenced
    (r : Registry) (types : Typing.Registry) :
    r.silenced.chains types = (r.chains types).map Converter.silenced := by
  have hright : DeclaredConverter.chainsOnRight ∘ DeclaredConverter.silenced =
      DeclaredConverter.chainsOnRight := rfl
  have hleft : DeclaredConverter.chainsOnLeft ∘ DeclaredConverter.silenced =
      DeclaredConverter.chainsOnLeft := rfl
  have hfollow (first : DeclaredConverter) :
      canFollow types first.silenced ∘ DeclaredConverter.silenced =
        canFollow types first := rfl
  simp only [chains, declared_silenced, List.filter_map, hright, hleft, List.flatMap_map,
    List.map_flatMap, hfollow, List.map_map]
  rfl

theorem addNew_silenced
    (r : Registry) (c : Converter) :
    r.silenced.addNew c.silenced = (r.addNew c).silenced := by
  unfold addNew
  rw [between?_silenced, Converter.silenced_source, Converter.silenced_target]
  cases r.between? c.source c.target <;> simp [silenced]

theorem withChains_silenced
    (r : Registry) (types : Typing.Registry) :
    r.silenced.withChains types = (r.withChains types).silenced := by
  unfold withChains
  rw [chains_silenced]
  generalize r.chains types = cs
  induction cs generalizing r with
  | nil =>
      rfl
  | cons c cs ih =>
      rw [List.map_cons, List.foldl_cons, addNew_silenced, ih, List.foldl_cons]

end Registry

end Conversion
end TriggerScript
