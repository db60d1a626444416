import TriggerScript.Proofs.TypeSystem.Memo
import TriggerScript.Proofs.Typing.Words

/-!
# Sound type systems

A type system is sound if its registry is, and if its converters and comparators are
between registered types. Every call keeps it sound; types stay, and words that are known
keep their meaning.
-/

namespace TriggerScript
namespace TypeSystem

open Typing Conversion Comparison

structure Sound
    (s : TypeSystem) : Prop where
  types : s.types.Sound
  grounded : s.sources.Grounded

theorem sound_initial :
    initial.Sound := by
  exact ⟨Typing.Registry.sound_initial, grounded_after []⟩

section Parts

variable (s : TypeSystem)

/-- Each registration leaves the other parts of a type system alone. -/
theorem registerType_keeps
    (d : TypeDeclaration) :
    (s.perform (.registerType d)).converters = s.converters ∧
      (s.perform (.registerType d)).comparators = s.comparators := by
  cases h : s.registerType d with
  | error refusal =>
      simp only [perform, h, and_self]
  | ok r =>
      obtain ⟨id, s'⟩ := r
      obtain ⟨types, -, rfl⟩ := registerType_ok h
      simp only [perform, h]
      exact ⟨rfl, rfl⟩

theorem registerConverter_keeps
    (d : ConverterDeclaration) :
    (s.perform (.registerConverter d)).types = s.types ∧
      (s.perform (.registerConverter d)).comparators = s.comparators := by
  cases h : s.registerConverter d with
  | error refusal =>
      simp only [perform, h, and_self]
  | ok s' =>
      obtain ⟨c, -, -, -, rfl⟩ := registerConverter_ok h
      simp only [perform, h]
      exact ⟨rfl, rfl⟩

theorem registerComparator_keeps
    (d : ComparatorDeclaration) :
    (s.perform (.registerComparator d)).types = s.types ∧
      (s.perform (.registerComparator d)).converters = s.converters := by
  cases h : s.registerComparator d with
  | error refusal =>
      simp only [perform, h, and_self]
  | ok s' =>
      obtain ⟨e, -, -, rfl⟩ := registerComparator_ok h
      simp only [perform, h]
      exact ⟨rfl, rfl⟩

theorem deriveChains_keeps :
    (s.perform .deriveChains).types = s.types ∧
      (s.perform .deriveChains).comparators = s.comparators := by
  simp only [perform, deriveChains]
  split <;> exact ⟨rfl, rfl⟩

end Parts

/-- A call changes the types by an accepted registration only. -/
theorem types_perform
    (s : TypeSystem) (op : Operation) :
    (s.perform op).types = s.types ∨
      ∃ d id, s.types.register d = .ok (id, (s.perform op).types) := by
  cases op with
  | registerType d =>
      cases h : s.registerType d with
      | error refusal =>
          left
          simp only [perform, h]
      | ok r =>
          obtain ⟨id, s'⟩ := r
          obtain ⟨types, hregister, rfl⟩ := registerType_ok h
          refine Or.inr ⟨d, id, ?_⟩
          simp only [perform, h]
          exact hregister
  | registerConverter d =>
      exact Or.inl (registerConverter_keeps s d).1
  | registerComparator d =>
      exact Or.inl (registerComparator_keeps s d).1
  | deriveChains =>
      exact Or.inl (deriveChains_keeps s).1
  | comparator a b =>
      exact Or.inl (congrArg Sources.types (perform_sources s (.comparator a b)))
  | compare a b =>
      exact Or.inl (congrArg Sources.types (perform_sources s (.compare a b)))
  | ordering a b =>
      exact Or.inl (congrArg Sources.types (perform_sources s (.ordering a b)))

theorem Sound.perform
    {s : TypeSystem}
    (h : s.Sound)
    (op : Operation) :
    (s.perform op).Sound ∧ s.types.Keeps (s.perform op).types := by
  have hgrounded := (change_perform s op).grounded h.grounded
  rcases types_perform s op with hsame | ⟨d, id, hregister⟩
  · constructor
    · refine ⟨?_, hgrounded⟩
      rw [hsame]
      exact h.types
    · rw [hsame]
      exact Typing.Registry.Keeps.refl _
  · exact ⟨⟨h.types.register hregister, hgrounded⟩, h.types.keeps hregister⟩

/-- The type system after several calls, the first of them first. -/
def performAll
    (s : TypeSystem) (ops : List Operation) : TypeSystem :=
  ops.foldl perform s

theorem performAll_append
    (s : TypeSystem) (ops ops' : List Operation) :
    s.performAll (ops ++ ops') = (s.performAll ops).performAll ops' := by
  exact List.foldl_append

/-- Calls of one kind that keep a part of each type system keep it together. -/
theorem performAll_map_keeps {β δ : Type}
    {part : TypeSystem → β} {op : δ → Operation}
    (hkeeps : ∀ d s, part (s.perform (op d)) = part s)
    (s : TypeSystem) (ds : List δ) :
    part (s.performAll (ds.map op)) = part s := by
  induction ds generalizing s with
  | nil =>
      rfl
  | cons d ds ih =>
      exact (ih (s.perform (op d))).trans (hkeeps d s)

theorem Sound.performAll
    {s : TypeSystem}
    (h : s.Sound)
    (ops : List Operation) :
    (s.performAll ops).Sound ∧ s.types.Keeps (s.performAll ops).types := by
  induction ops generalizing s with
  | nil =>
      exact ⟨h, Typing.Registry.Keeps.refl _⟩
  | cons op ops ih =>
      obtain ⟨hsound, hkeeps⟩ := h.perform op
      obtain ⟨hsound', hkeeps'⟩ := ih hsound
      exact ⟨hsound', hkeeps.trans hkeeps'⟩

end TypeSystem
end TriggerScript
