import TriggerScript.Conversion.Standard
import TriggerScript.Proofs.Comparison.Calls
import TriggerScript.Proofs.Conversion.Choice
import TriggerScript.Proofs.TypeSystem.Declaring
import TriggerScript.Proofs.TypeSystem.Persistence
import TriggerScript.Proofs.Typing.Settling

/-!
# Conversions of a type system

In every type system there is at most one converter between any two types. Adding the
missing chains puts them behind the converters that there are, closes these under chains,
and is done once it was done. A value is converted by the converter that is chosen
between its type and the target, and the choice stays the same unless nothing was chosen
before, a converter for exactly these types is added, or it turns out only now what the
type of the value can be used as.
-/

namespace TriggerScript
namespace TypeSystem

open Typing Conversion Comparison

theorem unambiguous_after
    (j : Journal) :
    (after j).converters.Unambiguous := by
  refine sources_induction (P := fun s => s.converters.Unambiguous) List.nodup_nil ?_ j
  intro s s' hgrowth h
  cases hgrowth with
  | unchanged =>
      exact h
  | types types hext =>
      exact h
  | converter c hsource htarget hfree =>
      exact h.append hfree
  | comparator e hfirst hsecond =>
      exact h
  | chains =>
      exact h.withChains s.types

section Chains

variable (s : TypeSystem)

theorem deriveChains_fst :
    s.deriveChains.1 =
      (s.converters.withChains s.types).length - s.converters.length := by
  unfold deriveChains
  dsimp only
  split
  · rename_i hnone
    exact hnone.symm
  · rfl

theorem types_deriveChains :
    s.deriveChains.2.types = s.types := by
  exact (deriveChains_keeps s).1

/-- Once the missing chains are added, nothing is left to do. -/
theorem deriveChains_deriveChains :
    s.deriveChains.2.deriveChains = (0, s.deriveChains.2) := by
  have hnone :
      (s.deriveChains.2.converters.deriveChains s.deriveChains.2.types).1 = 0 := by
    rw [types_deriveChains, converters_deriveChains]
    simp [Conversion.Registry.deriveChains, Conversion.Registry.withChains_withChains]
  rw [deriveChains.eq_def s.deriveChains.2]
  simp only [hnone, if_true]

end Chains

/-- In every type system no two converters lead from the same type to the same type.
Adding the missing chains puts converters behind those that are there, as many as it
tells, such that afterwards there is one wherever two declared ones make up a chain; each
of the added ones is derived and not to be chained, and converts by the first chain
between its types; and adding the missing chains again adds nothing. -/
theorem deriveChains_closes
    (j : Journal) :
    let s := after j
    let s' := s.deriveChains.2
    (s.converters.map Converter.ends).Nodup ∧
      ∃ added : List Converter,
        s'.converters = s.converters ++ added ∧
        s.deriveChains.1 = added.length ∧
        (∀ first second,
          Converter.declared first ∈ s'.converters →
          Converter.declared second ∈ s'.converters →
          Chainable s'.types first second →
            ∃ c ∈ s'.converters, c.ends = (first.source, second.target)) ∧
        (∀ c ∈ added,
          c.isDerived = true ∧
          c.options.noLeftChaining = true ∧
          c.options.noRightChaining = true ∧
          ∃ first second,
            s.converters.FirstChain s.types c.source c.target first second ∧
            ∀ v, c.convert v = (first.convert v).bind second.convert) ∧
        s'.deriveChains = (0, s') := by
  intro s s'
  have hunambiguous := unambiguous_after j
  have hconverters : s'.converters = s.converters.withChains s.types :=
    converters_deriveChains s
  have htypes : s'.types = s.types := types_deriveChains s
  obtain ⟨added, hadded⟩ : s.converters <+: s.converters.withChains s.types :=
    Conversion.Registry.prefix_foldl_addNew _ _
  refine ⟨hunambiguous, added, hconverters.trans hadded.symm, ?_, ?_, ?_,
    deriveChains_deriveChains s⟩
  · rw [deriveChains_fst, ← hadded, List.length_append, Nat.add_sub_cancel_left]
  · intro first second hfirst hsecond hchainable
    have hdeclared : s'.converters.declared = s.converters.declared :=
      declared_deriveChains s
    rw [← Conversion.Registry.mem_declared_iff, hdeclared] at hfirst hsecond
    rw [htypes] at hchainable
    rw [hconverters]
    exact Conversion.Registry.exists_mem_withChains hfirst hsecond hchainable
  · intro c hc
    obtain ⟨first, second, hchain, rfl⟩ :=
      Conversion.Registry.firstChain_of_mem_added hunambiguous hadded.symm hc
    exact ⟨rfl, rfl, rfl, first, second, hchain, fun v => rfl⟩

/-- Integers are written as texts, and texts are read as booleans. -/
def ladder : Journal :=
  [.registerConverter ⟨"text", "bool", Standard.textToTruth, Options.none⟩,
   .registerConverter ⟨"int", "text", Standard.toText, Options.none⟩,
   .registerType (TypeDeclaration.plain "bool" "bool"),
   .registerType (TypeDeclaration.plain "text" "text"),
   .registerType (TypeDeclaration.plain "int" "int")]

/-- From integers to booleans there is a chain, once the missing ones are added. -/
theorem deriveChains_closes_ladder :
    let s := after ladder
    ∃ c first second,
      s.deriveChains.2.converters = s.converters ++ [c] ∧
      s.converters.FirstChain s.types ⟨1⟩ ⟨3⟩ first second ∧
      (∀ v, c.convert v = (first.convert v).bind second.convert) ∧
      (∃ c' ∈ s.deriveChains.2.converters, c'.ends = (⟨1⟩, ⟨3⟩)) ∧
      s.deriveChains.2.deriveChains = (0, s.deriveChains.2) := by
  intro s
  obtain ⟨-, added, hconverters, hcount, hclosed, hadded, hagain⟩ :=
    deriveChains_closes ladder
  obtain ⟨hone, hends⟩ :
      s.deriveChains.1 = 1 ∧
        s.deriveChains.2.converters.map Converter.ends =
          s.converters.map Converter.ends ++ [(⟨1⟩, ⟨3⟩)] := by
    decide +kernel
  obtain ⟨c, rfl⟩ := List.length_eq_one_iff.1 (hcount.symm.trans hone)
  obtain ⟨-, -, -, first, second, hchain, hconvert⟩ := hadded c List.mem_cons_self
  rw [hconverters, List.map_append, List.append_cancel_left_eq] at hends
  obtain ⟨hsource, htarget⟩ := Prod.mk.inj (List.cons.inj hends).1
  obtain ⟨hfirst, hsecond⟩ := hchain.mem_declared
  have hkept : ∀ d ∈ s.converters.declared,
    Converter.declared d ∈ s.deriveChains.2.converters := by
    intro d hd
    rw [hconverters]
    exact List.mem_append_left [c] (Conversion.Registry.mem_declared_iff.1 hd)
  have hchainable : Chainable s.deriveChains.2.types first second := by
    rw [types_deriveChains]
    exact hchain.links.chainable
  have hbetween :=
    hclosed first second (hkept first hfirst) (hkept second hsecond) hchainable
  rw [hchain.links.starts, hchain.links.arrives, hsource, htarget] at hbetween
  rw [hsource, htarget] at hchain
  exact ⟨c, first, second, hconverters, hchain, hconvert, hbetween, hagain⟩

section Choice

variable {j : Journal} {v : Value} {a b target : TypeId}

/-- A value that cannot be used as it is goes
through the converter that is chosen for it. -/
theorem convert_of_not_isAssignable
    (h : (after j).types.isAssignable target v.typeId = false) :
    (after j).convert v target =
      ((after j).converters.find? (after j).types v.typeId target).bind fun c =>
        c.convert v := by
  unfold convert Conversion.Registry.convert
  rw [if_neg (by simp [h])]
  cases (after j).converters.find? (after j).types v.typeId target <;> rfl

/-- What a value is converted to can be used as the target. -/
theorem isAssignable_of_convert
    {w : Value}
    (h : (after j).convert v target = some w) :
    (after j).types.isAssignable target w.typeId = true := by
  cases hassignable : (after j).types.isAssignable target v.typeId with
  | true =>
      have hsame : (after j).convert v target = some v := if_pos hassignable
      rw [hsame] at h
      cases h
      exact hassignable
  | false =>
      rw [convert_of_not_isAssignable hassignable] at h
      obtain ⟨c, hc, hconvert⟩ := Option.bind_eq_some_iff.1 h
      obtain ⟨-, -, hserves⟩ := Conversion.Registry.findWhere?_spec hc
      rw [typeId_of_convert hconvert]
      exact (Bool.and_eq_true_iff.1 hserves).2

/-- A choice is kept if what the source can be used as is
settled and nothing is added for exactly the two types. -/
theorem find?_later
    {later : Journal} {added : List Converter} {c : Converter}
    (hadded : (after (later ++ j)).converters = (after j).converters ++ added)
    (hsettled : (after j).types.Settled (after (later ++ j)).types a)
    (hnew : ∀ x ∈ added, x.ends ≠ (a, b))
    (hfound : (after j).converters.find? (after j).types a b = some c) :
    (after (later ++ j)).converters.find? (after (later ++ j)).types a b = some c := by
  have hext : (after j).types.Extends (after (later ++ j)).types :=
    (extends_after later j).types
  have htargets : ∀ x ∈ (after j).converters,
      (after j).types.Agree (after (later ++ j)).types x.target := fun x hx =>
    ((grounded_after j).converters x hx).2.agree hext
  rw [hadded, Conversion.Registry.find?_append_of_ends_ne
    ((Registry.settled_iff_agree hext).1 hsettled) htargets hnew, hfound]
  rfl

end Choice

/-- In every type system the converter that is found between two types is the one that is
chosen. A value that can be used as the target is converted to itself, and any other one
goes through the converter that is chosen; it is not converted exactly if there is none
or this one fails, and whatever it is converted to can be used as the target. Later calls
put converters behind those that are there, and change the choice between two types only
if nothing was chosen, if one of the added converters is for exactly these types, or if
what the first type can be used as was not settled. -/
theorem convert_as_chosen
    (j : Journal) :
    let s := after j
    (∀ a b found,
      s.converters.find? s.types a b = found ↔ s.converters.Chooses s.types a b found) ∧
    (∀ v target,
      (s.types.isAssignable target v.typeId = true → s.convert v target = some v) ∧
      (s.types.isAssignable target v.typeId = false →
        s.convert v target =
            (s.converters.find? s.types v.typeId target).bind (fun c => c.convert v) ∧
          (s.convert v target = none ↔
            s.converters.find? s.types v.typeId target = none ∨
              ∃ c, s.converters.find? s.types v.typeId target = some c ∧
                c.convert v = none)) ∧
      ∀ w, s.convert v target = some w → s.types.isAssignable target w.typeId = true) ∧
    ∀ later : Journal,
      let s' := after (later ++ j)
      ∃ added : List Converter,
        s'.converters = s.converters ++ added ∧
        ∀ a b,
          s'.converters.find? s'.types a b ≠ s.converters.find? s.types a b →
            s.converters.find? s.types a b = none ∨
              (∃ c ∈ added, c.ends = (a, b)) ∨
              ¬s.types.Settled s'.types a := by
  intro s
  refine ⟨?_, ?_, ?_⟩
  · intro a b found
    exact Conversion.Registry.find?_eq_iff_chooses (unambiguous_after j) found
  · intro v target
    refine ⟨fun hassignable => if_pos hassignable, ?_, fun w => isAssignable_of_convert⟩
    intro hassignable
    have hconvert := convert_of_not_isAssignable hassignable
    refine ⟨hconvert, ?_⟩
    rw [hconvert]
    cases s.converters.find? s.types v.typeId target <;> simp
  · intro later s'
    obtain ⟨added, hadded⟩ := (extends_after later j).converters
    refine ⟨added, hadded.symm, ?_⟩
    intro a b hchanged
    cases hfound : s.converters.find? s.types a b with
    | none =>
        exact Or.inl rfl
    | some c =>
        refine Or.inr ?_
        by_cases hnew : ∃ x ∈ added, x.ends = (a, b)
        · exact Or.inl hnew
        · refine Or.inr fun hsettled => hchanged ?_
          have hother : ∀ x ∈ added, x.ends ≠ (a, b) :=
            fun x hx hends => hnew ⟨x, hx, hends⟩
          rw [hfound]
          exact find?_later hadded.symm hsettled hother hfound

section Pets

/-- Names are texts, and pets are turned into names. -/
def petsNamed : Journal :=
  [.registerConverter ⟨"pet", "name", Standard.toText, Options.none⟩,
   .registerType { TypeDeclaration.plain "name" "name" with supertype := some "text" },
   .registerType (TypeDeclaration.plain "text" "text"),
   .registerType (TypeDeclaration.plain "pet" "pet")]

/-- Pets are turned into texts, too. -/
def petsSpelled : Journal :=
  [.registerConverter ⟨"pet", "text", Standard.toText, Options.none⟩]

/-- A name is a text as it is, while a pet is turned into a name to become one; once
there is a converter from pets to texts, that one is chosen. -/
theorem convert_as_chosen_pets :
    let s := after petsNamed
    let s' := after (petsSpelled ++ petsNamed)
    let pet : Value := ⟨⟨1⟩, .integer 7⟩
    let name : Value := ⟨⟨3⟩, .text "7"⟩
    s.types.isAssignable ⟨2⟩ name.typeId = true ∧
      s.convert name ⟨2⟩ = some name ∧
      s.types.isAssignable ⟨2⟩ pet.typeId = false ∧
      s.convert pet ⟨2⟩ =
          (s.converters.find? s.types ⟨1⟩ ⟨2⟩).bind (fun c => c.convert pet) ∧
      s.convert pet ⟨2⟩ = some name ∧
      s'.converters.find? s'.types ⟨1⟩ ⟨2⟩ ≠ s.converters.find? s.types ⟨1⟩ ⟨2⟩ ∧
      ∃ added : List Converter,
        s'.converters = s.converters ++ added ∧
        (s.converters.find? s.types ⟨1⟩ ⟨2⟩ = none ∨
          (∃ c ∈ added, c.ends = (⟨1⟩, ⟨2⟩)) ∨
          ¬s.types.Settled s'.types ⟨1⟩) := by
  intro s s' pet name
  obtain ⟨-, hvalues, hlater⟩ := convert_as_chosen petsNamed
  -- one evaluation, for the registrations take the longest
  obtain ⟨hname, hpet, hconverted, htargets⟩ :
      s.types.isAssignable ⟨2⟩ name.typeId = true ∧
        s.types.isAssignable ⟨2⟩ pet.typeId = false ∧
        s.convert pet ⟨2⟩ = some name ∧
        (s'.converters.find? s'.types ⟨1⟩ ⟨2⟩).map Converter.target ≠
          (s.converters.find? s.types ⟨1⟩ ⟨2⟩).map Converter.target := by
    decide +kernel
  have hchanged :
      s'.converters.find? s'.types ⟨1⟩ ⟨2⟩ ≠ s.converters.find? s.types ⟨1⟩ ⟨2⟩ :=
    fun hsame => htargets (congrArg _ hsame)
  obtain ⟨added, hadded, hchoice⟩ := hlater petsSpelled
  exact ⟨hname, (hvalues name ⟨2⟩).1 hname, hpet,
    ((hvalues pet ⟨2⟩).2.1 hpet).1, hconverted, hchanged, added, hadded,
    hchoice ⟨1⟩ ⟨2⟩ hchanged⟩

/-- Pets and everything else are turned into texts. -/
def allSpelled : Journal :=
  [.registerConverter ⟨"object", "text", Standard.toText, Options.none⟩,
   .registerConverter ⟨"pet", "text", Standard.toText, Options.none⟩,
   .registerType (TypeDeclaration.plain "text" "text"),
   .registerType (TypeDeclaration.plain "pet" "pet")]

/-- Dogs are pets. -/
def dogsRegistered : Operation :=
  .registerType { TypeDeclaration.plain "dog" "dog" with supertype := some "pet" }

/-- A choice may also change when a type is registered whose
identity was in use before: what is a dog from now on used to
be turned into a text as anything is, and now is as a pet. -/
theorem not_forall_convert_as_chosen :
    ¬∀ (op : Operation) (j : Journal),
        ∃ added : List Converter,
          (after (op :: j)).converters = (after j).converters ++ added ∧
          ∀ a b,
            (after (op :: j)).converters.find? (after (op :: j)).types a b ≠
                (after j).converters.find? (after j).types a b →
              (after j).converters.find? (after j).types a b = none ∨
                ∃ c ∈ added, c.ends = (a, b) := by
  intro h
  obtain ⟨added, hadded, hchoice⟩ := h dogsRegistered allSpelled
  obtain ⟨hlength, hbefore, hchanged⟩ :
      (after (dogsRegistered :: allSpelled)).converters.length =
          (after allSpelled).converters.length ∧
        ((after allSpelled).converters.find?
            (after allSpelled).types ⟨3⟩ ⟨2⟩).isSome = true ∧
        ((after (dogsRegistered :: allSpelled)).converters.find?
            (after (dogsRegistered :: allSpelled)).types ⟨3⟩ ⟨2⟩).map Converter.source ≠
          ((after allSpelled).converters.find? (after allSpelled).types ⟨3⟩ ⟨2⟩).map
            Converter.source := by
    decide +kernel
  rcases hchoice ⟨3⟩ ⟨2⟩ fun hsame => hchanged (congrArg _ hsame) with hnone | ⟨c, hc, -⟩
  · rw [hnone] at hbefore
    cases hbefore
  · rw [hadded, List.length_append] at hlength
    have hsome := List.length_pos_of_mem hc
    omega

end Pets

end TypeSystem
end TriggerScript
