import TriggerScript.Proofs.Catalog.Acceptance
import TriggerScript.Proofs.Report.Queue

/-!
# What registrations report

Patterns are lost in two places: they cannot be compiled, or their slots name unknown
types. An element is lost with the last of its patterns, or if there was none to begin
with, and an expression also if the type of its values is unknown. Whatever is lost is
reported where it is lost, and nothing else is.
-/

namespace TriggerScript
namespace Catalog

open Script Report

variable {H : Host} {α β γ : Type}

section Compilation

variable [Regex.Dialect]

/-- Whether an element is declared with patterns, and all of them can be compiled. -/
structure PendingPhrase.Compiles
    (p : PendingPhrase H α) : Prop where
  ne_nil : p.patterns ≠ []
  compiled : ∀ source ∈ p.patterns, ∃ tree, Pattern.compile source = .ok tree

theorem compilePatterns_reports
    {element : String} {needsRank : Bool} {sources : List String} {queue queue' : Queue}
    {compiled : List (CompiledPattern × Nat)}
    (h : compilePatterns element needsRank sources queue = .ok (compiled, queue')) :
    queue.ReportsUnless queue'
      (∀ source ∈ sources, ∃ tree, Pattern.compile source = .ok tree) := by
  induction sources generalizing compiled queue with
  | nil =>
      cases h
      exact .refl (by simp)
  | cons source sources ih =>
      rw [compilePatterns] at h
      cases hcompile : Pattern.compile source with
      | error d =>
          rw [hcompile] at h
          refine ((Queue.ReportsUnless.push not_false _).trans (ih h)).congr ?_
          simp [hcompile]
      | ok tree =>
          rw [hcompile] at h
          dsimp only at h
          split at h
          · cases h
          · split at h
            · cases h
            · rename_i others queue'' hothers
              cases h
              refine (ih hothers).congr ?_
              simp [hcompile]

/-- If all patterns can be compiled then none is lost. -/
theorem compiledPatterns_map_source
    {patterns : List CompiledPattern}
    (h : ∀ c ∈ patterns, Pattern.compile c.source = .ok c.tree) :
    compiledPatterns (patterns.map CompiledPattern.source) = patterns := by
  induction patterns with
  | nil =>
      rfl
  | cons c patterns ih =>
      obtain ⟨hc, hpatterns⟩ := List.forall_mem_cons.1 h
      rw [List.map_cons, compiledPatterns_cons_of_ok hc, ih hpatterns]

theorem map_source_compiledPatterns
    {sources : List String}
    (h : ∀ source ∈ sources, ∃ tree, Pattern.compile source = .ok tree) :
    (compiledPatterns sources).map CompiledPattern.source = sources := by
  induction sources with
  | nil =>
      rfl
  | cons source sources ih =>
      obtain ⟨⟨tree, hcompile⟩, hsources⟩ := List.forall_mem_cons.1 h
      rw [compiledPatterns_cons_of_ok hcompile, List.map_cons, ih hsources]

theorem stagePhrase_reports
    {addon : String} {p : PendingPhrase H α} {queue queue' : Queue}
    {staged : Option (Phrase H α)}
    (h : stagePhrase addon p queue = .ok (staged, queue')) :
    queue.ReportsUnless queue' p.Compiles := by
  rw [stagePhrase] at h
  split at h
  · cases h
  · -- no pattern is left, so there was none, or one of them cannot be compiled
    rename_i queue'' hcompile
    cases h
    have hnone : compiledPatterns p.patterns = [] := (compilePatterns_ok hcompile).1.symm
    refine ((compilePatterns_reports hcompile).trans (.push not_false _)).congr ?_
    rw [and_false, false_iff]
    rintro ⟨hne, hcompiled⟩
    have hsources := map_source_compiledPatterns hcompiled
    rw [hnone] at hsources
    exact hne hsources.symm
  · rename_i compiled queue'' hne hcompile
    cases h
    refine (compilePatterns_reports hcompile).congr ?_
    refine ⟨fun hcompiled => ⟨?_, hcompiled⟩, fun h => h.compiled⟩
    intro hnil
    have hpatterns := (compilePatterns_ok hcompile).1
    rw [hnil] at hpatterns
    exact hne (List.map_eq_nil_iff.1 hpatterns)

theorem stageAll_reports
    {addon : String} {phrase : β → PendingPhrase H α} {finish : β → Phrase H α → γ}
    {declared : List β} {queue queue' : Queue} {staged : List γ}
    (h : stageAll addon phrase finish declared queue = .ok (staged, queue')) :
    queue.ReportsUnless queue' (∀ b ∈ declared, (phrase b).Compiles) := by
  induction declared generalizing staged queue with
  | nil =>
      cases h
      exact .refl (by simp)
  | cons b declared ih =>
      rw [stageAll] at h
      split at h
      · cases h
      · rename_i first queue₁ hfirst
        split at h
        · cases h
        · rename_i others queue₂ hothers
          cases h
          refine ((stagePhrase_reports hfirst).trans (ih hothers)).congr ?_
          rw [List.forall_mem_cons]

/-- Whether all elements of a registration can be compiled with all of their patterns. -/
structure Registration.Compiles
    (r : Registration H) : Prop where
  expressions : ∀ e ∈ r.expressions, e.phrase.Compiles
  effects : ∀ p ∈ r.effects, p.Compiles
  sections : ∀ p ∈ r.sections, p.Compiles
  events : ∀ e ∈ r.events, e.phrase.Compiles

theorem stage_reports
    {r : Registration H} {queue queue' : Queue} {b : Batch H}
    (h : r.stage queue = .ok (b, queue')) :
    queue.ReportsUnless queue' r.Compiles := by
  unfold Registration.stage at h
  obtain ⟨⟨expressions, queue₁⟩, hexpressions, h⟩ := exists_of_bind_ok h
  obtain ⟨⟨effects, queue₂⟩, heffects, h⟩ := exists_of_bind_ok h
  obtain ⟨⟨sections, queue₃⟩, hsections, h⟩ := exists_of_bind_ok h
  obtain ⟨⟨events, queue₄⟩, hevents, h⟩ := exists_of_bind_ok h
  cases h
  refine ((stageAll_reports hexpressions).trans ((stageAll_reports heffects).trans
    ((stageAll_reports hsections).trans (stageAll_reports hevents)))).congr ?_
  constructor
  · rintro ⟨h₁, h₂, h₃, h₄⟩
    exact ⟨h₁, h₂, h₃, h₄⟩
  · rintro ⟨h₁, h₂, h₃, h₄⟩
    exact ⟨h₁, h₂, h₃, h₄⟩

end Compilation

section Checks

/-- Whether an element has patterns, and the slots of all of them name known types. -/
structure Phrase.Known
    (types : Typing.Registry) (p : Phrase H α) : Prop where
  ne_nil : p.patterns ≠ []
  known : ∀ c ∈ p.patterns, c.isKnown types = true

variable (types : Typing.Registry)

theorem checkPatterns_reports
    (element : String) (patterns : List CompiledPattern) (queue : Queue) :
    queue.ReportsUnless (checkPatterns types element patterns queue).2
      (∀ c ∈ patterns, c.isKnown types = true) := by
  induction patterns generalizing queue with
  | nil =>
      exact .refl (by simp)
  | cons c patterns ih =>
      rw [checkPatterns]
      cases hunknown : unknownSlotType? types c.tree with
      | some name =>
          have hc : ¬c.isKnown types = true := by
            rw [← unknownSlotType?_eq_none_iff, hunknown]
            simp
          refine ((Queue.ReportsUnless.push not_false _).trans (ih _)).congr ?_
          simp [hc]
      | none =>
          refine (ih queue).congr ?_
          simp [unknownSlotType?_eq_none_iff.1 hunknown]

theorem checkPhrase_reports
    (p : Phrase H α) (queue : Queue) :
    queue.ReportsUnless (checkPhrase types p queue).2 (p.Known types) := by
  have hpatterns := checkPatterns_fst types p.element.name p.patterns queue
  have hreports := checkPatterns_reports types p.element.name p.patterns queue
  rw [checkPhrase]
  split
  · -- no pattern is left, so there was none, or one of them has an unknown type
    rename_i queue' hcheck
    rw [hcheck] at hpatterns hreports
    refine (hreports.trans (.push not_false _)).congr ?_
    rw [and_false, false_iff]
    rintro ⟨hne, hknown⟩
    rw [List.filter_eq_self.2 hknown] at hpatterns
    exact hne hpatterns.symm
  · rename_i patterns queue' hne hcheck
    rw [hcheck] at hpatterns hreports
    refine hreports.congr ⟨fun hknown => ⟨?_, hknown⟩, fun h => h.known⟩
    intro hnil
    rw [hnil] at hpatterns
    exact hne hpatterns

theorem checkPhrases_reports
    (phrases : List (Phrase H α)) (queue : Queue) :
    queue.ReportsUnless (checkPhrases types phrases queue).2
      (∀ p ∈ phrases, p.Known types) := by
  induction phrases generalizing queue with
  | nil =>
      exact .refl (by simp)
  | cons p phrases ih =>
      refine ((checkPhrase_reports types p queue).trans (ih _)).congr ?_
      rw [List.forall_mem_cons]

theorem checkExpressions_reports
    (expressions : List (Phrase H (Expression H) × String × Bool)) (queue : Queue) :
    queue.ReportsUnless (checkExpressions types expressions queue).2
      (∀ e ∈ expressions, (types.idOf? e.2.1).isSome = true ∧ e.1.Known types) := by
  induction expressions generalizing queue with
  | nil =>
      exact .refl (by simp)
  | cons e expressions ih =>
      obtain ⟨p, returnType, isSingle⟩ := e
      rw [checkExpressions]
      cases htype : types.idOf? returnType with
      | none =>
          refine ((Queue.ReportsUnless.push not_false _).trans (ih _)).congr ?_
          simp [htype]
      | some id =>
          refine ((checkPhrase_reports types p queue).trans (ih _)).congr ?_
          simp [htype]

theorem checkEvents_reports
    (events : List (EventEntry H)) (queue : Queue) :
    queue.ReportsUnless (checkEvents types events queue).2
      (∀ e ∈ events, e.phrase.Known types) := by
  induction events generalizing queue with
  | nil =>
      exact .refl (by simp)
  | cons e events ih =>
      refine ((checkPhrase_reports types e.phrase queue).trans (ih _)).congr ?_
      rw [List.forall_mem_cons]

end Checks

end Catalog
end TriggerScript
