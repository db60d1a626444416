import TriggerScript.Proofs.Catalog.History
import TriggerScript.Proofs.TypeSystem.Declaring
import TriggerScript.Regex.Acceptance

/-!
# Declared converters and chains

Of several converters that are declared between the same types the first one counts, and
chains fill the gaps that declarations leave. But chains are added after each
registration. A pair of types that is bridged by a chain when the first converter between
them is declared keeps the chain, and the declaration is refused.
-/

namespace TriggerScript
namespace Catalog

open Script Report Typing Conversion

variable {H : Host}

/-- The converters that a step declares between
known types, whether they are taken up or not. -/
def Step.conversions
    [Regex.Dialect]
    (c : Catalog H) : Step H → List DeclaredConverter
  | .register addon calls =>
      match c.register (Registration.filled addon calls) with
      | .ok r =>
          (Registration.filled addon calls).converters.filterMap
            (ConverterDeclaration.resolved? r.2.types.types)
      | .error _ => []
  | .ask _ _ => []

/-- The converters that were declared between known
types in a history, in the order of declaration. -/
def conversions
    [Regex.Dialect]
    (config : Config) : History H → List DeclaredConverter
  | [] => []
  | step :: earlier =>
      conversions config earlier ++ step.conversions (after config earlier)

/-- The first converter in a list that was declared between two types. -/
def firstBetween?
    (ds : List DeclaredConverter) (a b : TypeId) : Option DeclaredConverter :=
  ds.find? fun d => (Converter.declared d).connects a b

/-- The converter that was first declared between two types. -/
def firstDeclared?
    [Regex.Dialect]
    (config : Config) (h : History H) (a b : TypeId) : Option DeclaredConverter :=
  firstBetween? (conversions config h) a b

/-- The converter that a catalog uses from one type to another. -/
def converter?
    (c : Catalog H) (a b : TypeId) : Option Converter :=
  c.types.converters.find? c.types.types a b

/-- Whether a catalog had a converter between two
types before the first one was declared. -/
def Forestalled
    [Regex.Dialect]
    (config : Config) (h : History H) (a b : TypeId) : Prop :=
  ∃ earlier, earlier <:+ h ∧
    firstDeclared? config earlier a b = none ∧
      ((after config earlier).types.converters.between? a b).isSome = true

section Steps

/-- Publishing converters and comparators does not change the types. -/
theorem types_operations
    (s : TypeSystem) (b : Batch H) :
    (s.performAll b.operations).types =
      (s.performAll (b.types.map .registerType)).types := by
  let converting := (s.performAll (b.types.map .registerType)).performAll
    (b.converters.map .registerConverter)
  have hconverters :
      converting.types = (s.performAll (b.types.map .registerType)).types :=
    TypeSystem.performAll_map_keeps
      (fun d s => (TypeSystem.registerConverter_keeps s d).1) _ b.converters
  rw [Batch.operations, TypeSystem.performAll_append,
    TypeSystem.performAll_append, ← hconverters]
  exact TypeSystem.performAll_map_keeps
    (fun d s => (TypeSystem.registerComparator_keeps s d).1) converting b.comparators

/-- Converters are published behind those that are
there, as far as their types are known. -/
theorem converters_operations
    (s : TypeSystem) (b : Batch H) :
    (s.performAll b.operations).converters =
      ((b.converters.filterMap
        (ConverterDeclaration.resolved? (s.performAll b.operations).types)).map
          Converter.declared).foldl Conversion.Registry.addNew s.converters := by
  have htyped : (s.performAll (b.types.map .registerType)).converters = s.converters :=
    TypeSystem.performAll_map_keeps
      (fun d s => (TypeSystem.registerType_keeps s d).1) s b.types
  rw [types_operations, Batch.operations, TypeSystem.performAll_append,
    TypeSystem.performAll_append, ← htyped,
    ← TypeSystem.converters_performAll_registerConverter]
  exact TypeSystem.performAll_map_keeps
    (fun d s => (TypeSystem.registerComparator_keeps s d).2) _ b.comparators

/-- An accepted registration puts the converters that it declares behind those that are
there, and behind these chains of two of them. -/
theorem Publishes.converters
    [Regex.Dialect]
    {c c' : Catalog H} {r : Registration H}
    (h : Publishes c r c') :
    ∃ chains : List Converter,
      (∀ x ∈ chains, ∃ first second,
        Converter.declared first ∈ c'.types.converters ∧
        Converter.declared second ∈ c'.types.converters ∧
        x = .chained first second) ∧
      c'.types.converters =
        ((r.converters.filterMap (ConverterDeclaration.resolved? c'.types.types)).map
          Converter.declared ++ chains).foldl Conversion.Registry.addNew
            c.types.converters := by
  have hdeclared := converters_operations c.types r.batch
  have htypes : c'.types.types = (c.types.performAll r.batch.operations).types := by
    rw [h.types, TypeSystem.performAll_append, types_performAll_chaining]
  have hsystem := h.types
  rw [TypeSystem.performAll_append, performAll_chaining] at hsystem
  generalize c.types.performAll r.batch.operations = s at *
  rw [htypes]
  by_cases hchains : c.config.deriveChains = true
  · rw [if_pos hchains] at hsystem
    have hwith : c'.types.converters = s.converters.withChains s.types := by
      rw [hsystem, TypeSystem.converters_deriveChains]
    refine ⟨s.converters.chains s.types, ?_, ?_⟩
    · intro x hx
      obtain ⟨first, second, hfirst, hsecond, rfl⟩ := Conversion.Registry.mem_chains hx
      rw [hwith]
      exact ⟨first, second, Conversion.Registry.mem_foldl_addNew_of_mem hfirst,
        Conversion.Registry.mem_foldl_addNew_of_mem hsecond, rfl⟩
    · rw [hwith, List.foldl_append]
      exact congrArg (fun r => List.foldl Conversion.Registry.addNew r _) hdeclared
  · rw [if_neg hchains] at hsystem
    refine ⟨[], by simp, ?_⟩
    rw [hsystem, List.append_nil]
    exact hdeclared

/-- What a step adds to the converters. -/
theorem converters_perform
    [Regex.Dialect]
    (c : Catalog H) (step : Step H) :
    ∃ chains : List Converter,
      (∀ x ∈ chains, ∃ first second,
        Converter.declared first ∈ (c.perform step).types.converters ∧
        Converter.declared second ∈ (c.perform step).types.converters ∧
        x = .chained first second) ∧
      (c.perform step).types.converters =
        ((step.conversions c).map Converter.declared ++ chains).foldl
          Conversion.Registry.addNew c.types.converters := by
  cases step with
  | register addon calls =>
      cases h : c.register (Registration.filled addon calls) with
      | ok r =>
          simp only [perform, Step.conversions, h]
          exact (publishes_of_register h).converters
      | error e =>
          refine ⟨[], by simp, ?_⟩
          simp only [perform, Step.conversions, h]
          rfl
  | ask a b =>
      refine ⟨[], by simp, ?_⟩
      exact congrArg Comparison.Sources.converters
        (TypeSystem.perform_sources c.types (.comparator a b))

/-- After a step there is the converter that was there,
or the first one that the step declares, or a chain. -/
theorem between?_perform
    [Regex.Dialect]
    (c : Catalog H) (step : Step H) (a b : TypeId) :
    ∃ chain : Option Converter,
      (c.perform step).types.converters.between? a b =
        ((c.types.converters.between? a b).or
          ((firstBetween? (step.conversions c) a b).map .declared)).or chain := by
  obtain ⟨chains, -, hconverters⟩ := converters_perform c step
  refine ⟨chains.find? fun x => x.connects a b, ?_⟩
  rw [hconverters, Conversion.Registry.between?_foldl_addNew,
    List.find?_append, List.find?_map, ← Option.or_assoc]
  rfl

end Steps

section Histories

variable [Regex.Dialect] (config : Config) (h : History H) {a b : TypeId}

/-- Each converter is declared, or is a chain of declared ones. -/
theorem mem_converters_after :
    ∀ x ∈ (after config h).types.converters,
      (∃ d ∈ conversions config h, x = .declared d) ∨
        ∃ first ∈ conversions config h, ∃ second ∈ conversions config h,
          x = .chained first second := by
  induction h with
  | nil =>
      intro x hx
      cases hx
  | cons step earlier ih =>
      obtain ⟨chains, hparts, hconverters⟩ :=
        converters_perform (after config earlier) step
      -- what is declared in a catalog after the step was declared in its history
      have hdeclared : ∀ d,
          Converter.declared d ∈ (after config (step :: earlier)).types.converters →
            d ∈ conversions config (step :: earlier) := by
        intro d hd
        rw [after, hconverters] at hd
        rcases Conversion.Registry.mem_foldl_addNew hd with hold | hnew
        · rcases ih _ hold with ⟨d', hd', hsame⟩ | ⟨first, -, second, -, hsame⟩
          · cases hsame
            exact List.mem_append_left _ hd'
          · cases hsame
        · rcases List.mem_append.1 hnew with hnew | hchain
          · obtain ⟨d', hd', hsame⟩ := List.mem_map.1 hnew
            cases hsame
            exact List.mem_append_right _ hd'
          · obtain ⟨first, second, -, -, hsame⟩ := hparts _ hchain
            cases hsame
      intro x hx
      cases x with
      | declared d =>
          exact Or.inl ⟨d, hdeclared d hx, rfl⟩
      | chained first second =>
          right
          rw [after, hconverters] at hx
          rcases Conversion.Registry.mem_foldl_addNew hx with hold | hnew
          · rcases ih _ hold with
              ⟨d, -, hsame⟩ | ⟨first', hfirst, second', hsecond, hsame⟩
            · cases hsame
            · cases hsame
              exact ⟨first, List.mem_append_left _ hfirst, second,
                List.mem_append_left _ hsecond, rfl⟩
          · rcases List.mem_append.1 hnew with hnew | hchain
            · obtain ⟨d, -, hsame⟩ := List.mem_map.1 hnew
              cases hsame
            · obtain ⟨first', second', hfirst, hsecond, hsame⟩ := hparts _ hchain
              cases hsame
              exact ⟨first, hdeclared first hfirst, second,
                hdeclared second hsecond, rfl⟩

/-- A converter between two types stays. -/
theorem between?_later
    {x : Converter}
    (hx : (after config h).types.converters.between? a b = some x)
    (later : History H) :
    (after config (later ++ h)).types.converters.between? a b = some x := by
  induction later with
  | nil =>
      exact hx
  | cons step later ih =>
      obtain ⟨chain, hchain⟩ := between?_perform (after config (later ++ h)) step a b
      rw [List.cons_append, after, hchain, ih]
      rfl

theorem firstDeclared?_cons
    (step : Step H) :
    firstDeclared? config (step :: h) a b =
      (firstDeclared? config h a b).or
        (firstBetween? (step.conversions (after config h)) a b) := by
  exact List.find?_append

/-- What was declared before comes first. -/
theorem conversions_isPrefix
    (later : History H) :
    conversions config h <+: conversions config (later ++ h) := by
  induction later with
  | nil =>
      exact List.prefix_rfl
  | cons step later ih =>
      exact ih.trans (List.prefix_append _ _)

/-- The first declaration stays the first one. -/
theorem firstDeclared?_later
    {d : DeclaredConverter}
    (hd : firstDeclared? config h a b = some d)
    (later : History H) :
    firstDeclared? config (later ++ h) a b = some d := by
  exact (conversions_isPrefix config h later).find?_eq_some hd

/-- A converter between types for which none was declared is a chain. -/
theorem chained_of_firstDeclared?_eq_none
    {x : Converter}
    (hnone : firstDeclared? config h a b = none)
    (hx : (after config h).types.converters.between? a b = some x) :
    ∃ first ∈ conversions config h, ∃ second ∈ conversions config h,
      x = .chained first second := by
  rcases mem_converters_after config h x (List.mem_of_find?_eq_some hx) with
    ⟨d, hd, rfl⟩ | hchain
  · exact absurd (List.find?_some hx) (List.find?_eq_none.1 hnone d hd)
  · exact hchain

/-- The first declaration belongs to a step before which there was none. -/
theorem exists_declaring_step
    {d : DeclaredConverter}
    (hd : firstDeclared? config h a b = some d) :
    ∃ later step earlier,
      h = later ++ step :: earlier ∧
      firstDeclared? config earlier a b = none ∧
      firstBetween? (step.conversions (after config earlier)) a b = some d := by
  induction h with
  | nil =>
      cases hd
  | cons step earlier ih =>
      cases hearlier : firstDeclared? config earlier a b with
      | none =>
          rw [firstDeclared?_cons, hearlier] at hd
          exact ⟨[], step, earlier, rfl, hearlier, hd⟩
      | some d' =>
          have hsame := firstDeclared?_later config earlier hearlier [step]
          rw [List.singleton_append, hd] at hsame
          obtain ⟨later, step', earlier', rfl, hnone, hstep⟩ :=
            ih (hearlier.trans hsame.symm)
          exact ⟨step :: later, step', earlier', rfl, hnone, hstep⟩

/-- What forestalls a declaration was there when it was made. -/
theorem forestalled_iff
    {step : Step H} {d : DeclaredConverter}
    (hnone : firstDeclared? config h a b = none)
    (hstep : firstBetween? (step.conversions (after config h)) a b = some d)
    (later : History H) :
    Forestalled config (later ++ step :: h) a b ↔
      ((after config h).types.converters.between? a b).isSome = true := by
  constructor
  · rintro ⟨earlier, hearlier, hnone', hsome⟩
    obtain ⟨x, hx⟩ := Option.isSome_iff_exists.1 hsome
    have hdeclared : firstDeclared? config (step :: h) a b = some d := by
      rw [firstDeclared?_cons, hnone, hstep]
      rfl
    have hbehind : step :: h <:+ later ++ step :: h := List.suffix_append _ _
    rcases List.suffix_or_suffix_of_suffix hearlier hbehind with hshort | ⟨more, rfl⟩
    · rcases List.suffix_cons_iff.1 hshort with rfl | ⟨more, rfl⟩
      · rw [hdeclared] at hnone'
        cases hnone'
      · rw [between?_later config earlier hx more]
        rfl
    · rw [firstDeclared?_later config _ hdeclared more] at hnone'
      cases hnone'
  · intro hsome
    refine ⟨h, ?_, hnone, hsome⟩
    exact (List.suffix_cons step h).trans (List.suffix_append _ _)

end Histories

/-- Of the converters that are declared between two types the catalog uses the first one,
unless there was a converter between these types before any was declared. Then it is a
chain of two declared converters that is used. -/
theorem converter?_eq_declared_iff
    [Regex.Dialect]
    (config : Config) (h : History H) {a b : TypeId} {d : DeclaredConverter}
    (hd : firstDeclared? config h a b = some d) :
    ((after config h).converter? a b = some (.declared d) ↔ ¬Forestalled config h a b) ∧
      (Forestalled config h a b →
        ∃ first ∈ conversions config h, ∃ second ∈ conversions config h,
          (after config h).converter? a b = some (.chained first second)) := by
  obtain ⟨later, step, earlier, rfl, hnone, hstep⟩ := exists_declaring_step config h hd
  obtain ⟨chain, hperform⟩ := between?_perform (after config earlier) step a b
  rw [hstep] at hperform
  have hforestalled := forestalled_iff config earlier hnone hstep later
  cases hbefore : (after config earlier).types.converters.between? a b with
  | none =>
      -- nothing was there, so what the step declares is taken up
      rw [hbefore] at hperform hforestalled
      have hkept := between?_later config (step :: earlier) hperform later
      have hused := Conversion.Registry.find?_of_between? hkept
      simp [hforestalled, converter?, hused]
  | some x =>
      have hkept := between?_later config earlier hbefore (later ++ [step])
      rw [List.append_assoc, List.singleton_append] at hkept
      have hused := Conversion.Registry.find?_of_between? hkept
      obtain ⟨first, hfirst, second, hsecond, rfl⟩ :=
        chained_of_firstDeclared?_eq_none config earlier hnone hbefore
      have hdeclared := conversions_isPrefix config earlier (later ++ [step])
      rw [List.append_assoc, List.singleton_append] at hdeclared
      constructor
      · rw [hbefore] at hforestalled
        simp [hforestalled, converter?, hused]
      · intro _
        exact ⟨first, hdeclared.subset hfirst, second, hdeclared.subset hsecond, hused _⟩

section Bridged

/-- A host without anything of its own. -/
def plainHost : Host := ⟨Unit, Unit⟩

/-- A declaration of a converter that takes values as they are. -/
def passing
    (source target : String) : Call plainHost :=
  .addConverter ⟨source, target, fun v => some v.data, Options.none⟩

/-- Three types with two converters between them, which make up a chain. -/
def bridge : List (Call plainHost) :=
  [.addType (TypeDeclaration.plain "a" "a"), .addType (TypeDeclaration.plain "b" "b"),
   .addType (TypeDeclaration.plain "c" "c"), passing "a" "b", passing "b" "c"]

/-- A converter is declared along with the two that make up a chain between its types. -/
def declaredAlong : History plainHost :=
  [.register "one" (bridge ++ [passing "a" "c"])]

/-- A converter is declared after the two that make up a chain between its types. -/
def declaredAfterwards : History plainHost :=
  [.register "two" [passing "a" "c"], .register "one" bridge]

theorem converter?_eq_declared_iff_along :
    ∃ d,
      firstDeclared? Config.standard declaredAlong ⟨1⟩ ⟨3⟩ = some d ∧
      (after Config.standard declaredAlong).converter? ⟨1⟩ ⟨3⟩ = some (.declared d) := by
  have hdeclared :
      (firstDeclared? Config.standard declaredAlong ⟨1⟩ ⟨3⟩).isSome = true := by
    decide +kernel
  obtain ⟨d, hd⟩ := Option.isSome_iff_exists.1 hdeclared
  refine ⟨d, hd, (converter?_eq_declared_iff Config.standard declaredAlong hd).1.2 ?_⟩
  rintro ⟨earlier, hearlier, hnone, hsome⟩
  rcases List.suffix_cons_iff.1 hearlier with rfl | hbefore
  · rw [declaredAlong] at hd
    rw [hd] at hnone
    cases hnone
  · rw [List.suffix_nil.1 hbefore] at hsome
    cases hsome

/-- Whether all registrations of a history were accepted. -/
def History.allAccepted [Regex.Dialect] (config : Config) : History H → Bool
  | [] => true
  | .register addon calls :: earlier =>
      ((after config earlier).register (Registration.filled addon calls)).isOk &&
        allAccepted config earlier
  | .ask _ _ :: earlier => allAccepted config earlier

/-- The first converter that is declared between two types is refused if a chain was
there before. -/
theorem not_forall_converter?_eq_declared :
    ¬∀ (config : Config) (h : History plainHost) (a b : TypeId) (d : DeclaredConverter),
      config.deriveChains = true → h.allAccepted config = true →
        firstDeclared? config h a b = some d →
          (after config h).converter? a b = some (.declared d) := by
  intro hall
  have hdeclared :
      (firstDeclared? Config.standard declaredAfterwards ⟨1⟩ ⟨3⟩).isSome = true := by
    decide +kernel
  have hderived :
      ((after Config.standard declaredAfterwards).converter? ⟨1⟩ ⟨3⟩).any
        Converter.isDerived = true := by
    decide +kernel
  obtain ⟨d, hd⟩ := Option.isSome_iff_exists.1 hdeclared
  rw [hall Config.standard declaredAfterwards ⟨1⟩ ⟨3⟩ d rfl (by decide +kernel) hd]
    at hderived
  cases hderived

end Bridged

end Catalog
end TriggerScript
