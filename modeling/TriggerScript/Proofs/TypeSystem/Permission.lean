import TriggerScript.Comparison.Standard
import TriggerScript.Conversion.Standard
import TriggerScript.Proofs.Comparison.Permission
import TriggerScript.Proofs.TypeSystem.Calls

/-!
# Comparing without what must not compare

A converter that must not be used to compare values is not called when values are
compared or ordered, be it on its own or as a part of a chain. Neither does it matter
what it does: a type system whose journal was silenced gives the same answers, since
every call on the one leaves it as the same call leaves the other, up to the functions of
such converters.
-/

namespace TriggerScript

open Typing Conversion Comparison

/-- The same declaration, with a function that always fails
if the converter must not be used to compare values. -/
def Conversion.ConverterDeclaration.silenced
    (d : ConverterDeclaration) : ConverterDeclaration :=
  { d with function := if d.options.noComparison then fun _ => none else d.function }

namespace TypeSystem

/-- The same call, with the converter silenced that it may declare. -/
def Operation.silenced : Operation → Operation
  | .registerConverter d => .registerConverter d.silenced
  | op => op

/-- The same type system with its converters silenced. -/
def silenced
    (s : TypeSystem) : TypeSystem :=
  { s with sources := s.sources.silenced }

section Silenced

variable (s : TypeSystem)

theorem require_silenced
    (role : Role) (word : String) :
    s.silenced.require role word = s.require role word := by
  rfl

theorem registerType_silenced
    (d : TypeDeclaration) :
    s.silenced.registerType d = (s.registerType d).map fun x => (x.1, x.2.silenced) := by
  have htypes : s.silenced.types = s.types := rfl
  unfold registerType
  rw [htypes]
  cases s.types.register d <;> rfl

theorem registerConverter_silenced
    (d : ConverterDeclaration) :
    s.silenced.registerConverter d.silenced = (s.registerConverter d).map silenced := by
  have hsource : d.silenced.source = d.source := rfl
  have htarget : d.silenced.target = d.target := rfl
  unfold registerConverter
  rw [require_silenced, require_silenced, hsource, htarget]
  cases s.require .converterSource d.source with
  | error refusal =>
      rfl
  | ok source =>
      cases s.require .converterTarget d.target with
      | error refusal =>
          rfl
      | ok target =>
          have hadd :
              s.silenced.converters.add s.silenced.types
                  ⟨source, target, d.silenced.function, d.silenced.options⟩ =
                (s.converters.add s.types ⟨source, target, d.function, d.options⟩).map
                  Conversion.Registry.silenced :=
            Conversion.Registry.add_silenced s.converters s.types
              ⟨source, target, d.function, d.options⟩
          simp only [bind, Except.bind, hadd]
          cases s.converters.add s.types ⟨source, target, d.function, d.options⟩ <;> rfl

theorem registerComparator_silenced
    (d : ComparatorDeclaration) :
    s.silenced.registerComparator d = (s.registerComparator d).map silenced := by
  unfold registerComparator
  rw [require_silenced, require_silenced]
  cases s.require .comparator d.first with
  | error refusal =>
      rfl
  | ok first =>
      cases s.require .comparator d.second with
      | error refusal =>
          rfl
      | ok second =>
          have hhas : s.silenced.hasComparator first second =
              s.hasComparator first second := rfl
          simp only [bind, Except.bind, hhas]
          split
          · rfl
          · split
            · rfl
            · rfl

theorem deriveChains_silenced :
    s.silenced.deriveChains = (s.deriveChains.1, s.deriveChains.2.silenced) := by
  have hchains :
      s.silenced.converters.deriveChains s.silenced.types =
        ((s.converters.deriveChains s.types).1,
          (s.converters.deriveChains s.types).2.silenced) := by
    have hwith := Conversion.Registry.withChains_silenced s.converters s.types
    have hconverters : s.silenced.converters = s.converters.silenced := rfl
    have htypes : s.silenced.types = s.types := rfl
    simp only [Conversion.Registry.deriveChains, hconverters, htypes, hwith]
    simp [Conversion.Registry.silenced]
  unfold deriveChains
  rw [hchains]
  dsimp only
  split
  · rfl
  · rfl

theorem comparator_silenced
    (a b : TypeId) :
    s.silenced.comparator a b =
      ((s.comparator a b).1, (s.comparator a b).2.silenced) := by
  have hmemo : s.silenced.memo = s.memo := rfl
  have hresolve : s.silenced.sources.resolve a b = s.sources.resolve a b :=
    s.sources.resolve_silenced a b
  unfold comparator
  rw [hmemo]
  cases s.memo.lookup (a, b) with
  | some found =>
      rfl
  | none =>
      simp only [hresolve]
      rfl

theorem remembering_silenced
    (a b : TypeId) :
    s.silenced.remembering a b = (s.remembering a b).silenced := by
  unfold remembering
  rw [comparator_silenced]

/-- A call does the same to a silenced type system. -/
theorem perform_silenced
    (op : Operation) :
    s.silenced.perform op.silenced = (s.perform op).silenced := by
  cases op with
  | registerType d =>
      simp only [Operation.silenced, perform, registerType_silenced]
      cases s.registerType d <;> rfl
  | registerConverter d =>
      simp only [Operation.silenced, perform, registerConverter_silenced]
      cases s.registerConverter d <;> rfl
  | registerComparator d =>
      simp only [Operation.silenced, perform, registerComparator_silenced]
      cases s.registerComparator d <;> rfl
  | deriveChains =>
      simp only [Operation.silenced, perform, deriveChains_silenced]
  | comparator a b =>
      exact s.remembering_silenced a b
  | compare a b =>
      cases a with
      | none =>
          rfl
      | some a =>
          cases b with
          | none =>
              rfl
          | some b =>
              simp only [Operation.silenced, perform, compare_state,
                remembering_silenced]
  | ordering a b =>
      simp only [Operation.silenced, perform, ordering_state, remembering_silenced]

end Silenced

theorem after_silenced
    (j : Journal) :
    after (j.map Operation.silenced) = (after j).silenced := by
  induction j with
  | nil =>
      rfl
  | cons op earlier ih =>
      rw [List.map_cons, after, ih, perform_silenced, after]

/-- Which comparator serves two types does not depend on what is silenced. -/
theorem comparator_eq_of_silenced_eq
    {j j' : Journal}
    (h : j'.map Operation.silenced = j.map Operation.silenced)
    (a b : TypeId) :
    ((after j').comparator a b).1 = ((after j).comparator a b).1 := by
  have hafter : (after j').silenced = (after j).silenced := by
    rw [← after_silenced, h, after_silenced]
  have hanswer := congrArg (fun s : TypeSystem => (s.comparator a b).1) hafter
  simpa only [comparator_silenced] using hanswer

theorem compareRecorded_eq_of_silenced_eq
    {j j' : Journal}
    (h : j'.map Operation.silenced = j.map Operation.silenced)
    (a b : Option Value) :
    (after j').compareRecorded a b = (after j).compareRecorded a b := by
  cases a with
  | none =>
      rfl
  | some a =>
      cases b with
      | none =>
          rfl
      | some b =>
          simp only [compareRecorded, comparator_eq_of_silenced_eq h]

theorem orderingRecorded_eq_of_silenced_eq
    {j j' : Journal}
    (h : j'.map Operation.silenced = j.map Operation.silenced)
    (a b : Value) :
    (after j').orderingRecorded a b = (after j).orderingRecorded a b := by
  simp only [orderingRecorded, comparator_eq_of_silenced_eq h]

theorem permitted_applyRecorded
    {j : Journal} {a b : Value} {c : Comparator}
    (h : ((after j).comparator a.typeId b.typeId).1 = some c) :
    ∀ call ∈ (c.applyRecorded a b).calls, call.Permitted := by
  rw [comparator_eq_resolve_origin] at h
  exact Sources.permitted_of_resolve h a b

/-- In every type system, comparing two values and ordering them only calls converters
that may be used to compare values, parts of chains included; and a type system that was
reached by the same calls, except that converters that must not be used so were declared
with other functions, gives the same answers. -/
theorem permitted_compare_and_ordering
    (j : Journal) :
    (∀ a b : Option Value,
        ((after j).compareRecorded a b).result = ((after j).compare a b).1 ∧
          ∀ call ∈ ((after j).compareRecorded a b).calls, call.Permitted) ∧
      (∀ a b : Value,
        ((after j).orderingRecorded a b).result = ((after j).ordering a b).1 ∧
          ∀ call ∈ ((after j).orderingRecorded a b).calls, call.Permitted) ∧
      ∀ j' : Journal,
        j'.map Operation.silenced = j.map Operation.silenced →
          (∀ a b, ((after j').compare a b).1 = ((after j).compare a b).1) ∧
            ∀ a b, ((after j').ordering a b).1 = ((after j).ordering a b).1 := by
  refine ⟨?_, ?_, ?_⟩
  · intro a b
    exact ⟨compareRecorded_result (after j) a b,
      forall_calls_compareRecorded (fun _ _ _ => permitted_applyRecorded) a b⟩
  · intro a b
    exact ⟨orderingRecorded_result (after j) a b,
      forall_calls_orderingRecorded (fun _ _ _ => permitted_applyRecorded) a b⟩
  · intro j' h
    refine ⟨?_, ?_⟩
    · intro a b
      rw [← compareRecorded_result, compareRecorded_eq_of_silenced_eq h,
        compareRecorded_result]
    · intro a b
      rw [← orderingRecorded_result, orderingRecorded_eq_of_silenced_eq h,
        orderingRecorded_result]

/-- Words that are read as texts, also to compare them, and texts that are read as
numbers, but not to compare them; from words to numbers there is a chain. -/
def numerals
    (read : Value → Option Data) : Journal :=
  [.deriveChains,
   .registerComparator ⟨"text", "text", Standard.texts, true⟩,
   .registerConverter
     ⟨"text", "number", read, { Options.none with noComparison := true }⟩,
   .registerConverter ⟨"word", "text", Conversion.Standard.unchanged, Options.none⟩,
   .registerType (TypeDeclaration.plain "number" "number"),
   .registerType (TypeDeclaration.plain "text" "text"),
   .registerType (TypeDeclaration.plain "word" "word")]

/-- A word and a text are compared as texts, once the word was converted; a word that can
be converted into a number by the chain is not equal to it, however numbers are read. -/
theorem permitted_compare_and_ordering_numerals :
    let j := numerals Conversion.Standard.textToInteger
    let word : Value := ⟨⟨1⟩, .text "7"⟩
    let text : Value := ⟨⟨2⟩, .text "7"⟩
    let number : Value := ⟨⟨3⟩, .integer 7⟩
    (after j).convert word ⟨3⟩ = some number ∧
      ((after j).compare (some word) (some text)).1 = .equal ∧
      ((after j).compareRecorded (some word) (some text)).calls.length = 2 ∧
      (∀ call ∈ ((after j).compareRecorded (some word) (some text)).calls,
        call.Permitted) ∧
      ((after j).compare (some word) (some number)).1 = .notEqual ∧
      ∀ read,
        ((after (numerals read)).compare (some word) (some number)).1 = .notEqual ∧
          ((after (numerals read)).ordering word number).1 = none := by
  intro j word text number
  obtain ⟨hcompare, -, hother⟩ := permitted_compare_and_ordering j
  -- one evaluation, for the registrations take the longest
  obtain ⟨hnumber, hequal, hcalls, hdiffer, hunordered⟩ :
      (after j).convert word ⟨3⟩ = some number ∧
        ((after j).compare (some word) (some text)).1 = .equal ∧
        ((after j).compareRecorded (some word) (some text)).calls.length = 2 ∧
        ((after j).compare (some word) (some number)).1 = .notEqual ∧
        ((after j).ordering word number).1 = none := by
    decide +kernel
  refine ⟨hnumber, hequal, hcalls, (hcompare _ _).2, hdiffer, ?_⟩
  intro read
  obtain ⟨hsame, hsameOrdering⟩ := hother (numerals read) rfl
  exact ⟨(hsame _ _).trans hdiffer, (hsameOrdering _ _).trans hunordered⟩

end TypeSystem
end TriggerScript
