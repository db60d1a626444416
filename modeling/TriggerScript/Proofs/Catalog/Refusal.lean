import Mathlib
import TriggerScript.Catalog.Basic
import TriggerScript.Regex.Acceptance

/-!
# Refused registrations

A registration is refused for one reason only: a pattern of it can be compiled, but has
no rank although its declaration has no priority of its own. Patterns are ranked while
they are compiled, so the first such pattern is the one that is named; and since all of
this happens before anything is published, nothing is published then. Which declarations
would have been left out anyway makes no difference.
-/

namespace TriggerScript
namespace Catalog

open Script Report

variable {H : Host} {α β γ : Type}

/-- A pattern as it was declared, and whether a priority is to follow from it. -/
structure DeclaredPattern where
  element : String
  source : String
  needsRank : Bool
deriving DecidableEq

/-- The error of a computation, if it fails. -/
def refusal? {ε : Type} : Except ε α → Option ε
  | .error e => some e
  | .ok _ => none

theorem refusal?_eq_some_iff {ε : Type}
    {x : Except ε α} {e : ε} :
    refusal? x = some e ↔ x = .error e := by
  cases x <;> simp [refusal?]

namespace DeclaredPattern

variable [Regex.Dialect]

/-- Whether the pattern can be compiled, but not ranked although it needs to be. -/
def Unrankable
    (p : DeclaredPattern) : Prop :=
  p.needsRank = true ∧ ∃ tree, Pattern.compile p.source = .ok tree ∧ tree.rank? = none

/-- Why a registration with the pattern is refused, if it is because of the pattern. -/
def refusal?
    (p : DeclaredPattern) : Option RegistrationError :=
  match Pattern.compile p.source with
  | .error _ => none
  | .ok tree =>
      if p.needsRank && tree.rank?.isNone then
        some (.unrankablePattern p.element p.source)
      else
        none

theorem refusal?_eq_some_iff
    {p : DeclaredPattern} {e : RegistrationError} :
    p.refusal? = some e ↔ p.Unrankable ∧ e = .unrankablePattern p.element p.source := by
  unfold refusal? Unrankable
  cases Pattern.compile p.source with
  | error d =>
      simp
  | ok tree =>
      simp [and_assoc, eq_comm (a := e)]

theorem refusal?_eq_none_iff
    {p : DeclaredPattern} :
    p.refusal? = none ↔ ¬p.Unrankable := by
  rw [Option.eq_none_iff_forall_ne_some]
  simp [refusal?_eq_some_iff]

end DeclaredPattern

/-- The patterns of a declared element. -/
def PendingPhrase.declaredPatterns
    (p : PendingPhrase H α) : List DeclaredPattern :=
  p.patterns.map fun source => ⟨p.element.name, source, p.priority.isNone⟩

/-- Whether an element is declared without a priority,
and with a pattern from which none follows. -/
def PendingPhrase.Unrankable
    [Regex.Dialect]
    (p : PendingPhrase H α) : Prop :=
  p.priority = none ∧
    ∃ source ∈ p.patterns, ∃ tree, Pattern.compile source = .ok tree ∧ tree.rank? = none

/-- The patterns of a registration, in the order in which they are compiled. -/
def Registration.declaredPatterns
    (r : Registration H) : List DeclaredPattern :=
  r.expressions.flatMap (fun e => e.phrase.declaredPatterns) ++
    (r.effects.flatMap PendingPhrase.declaredPatterns ++
      (r.sections.flatMap PendingPhrase.declaredPatterns ++
        r.events.flatMap fun e => e.phrase.declaredPatterns))

theorem PendingPhrase.exists_unrankable_iff
    [Regex.Dialect]
    {p : PendingPhrase H α} :
    (∃ q ∈ p.declaredPatterns, q.Unrankable) ↔ p.Unrankable := by
  unfold declaredPatterns
  constructor
  · rintro ⟨q, hq, hpriority, hrank⟩
    obtain ⟨source, hmem, rfl⟩ := List.mem_map.1 hq
    exact ⟨Option.isNone_iff_eq_none.1 hpriority, source, hmem, hrank⟩
  · rintro ⟨hpriority, source, hmem, hrank⟩
    exact ⟨_, List.mem_map_of_mem hmem, Option.isNone_iff_eq_none.2 hpriority, hrank⟩

theorem exists_unrankable_flatMap_iff
    [Regex.Dialect]
    (phrase : β → PendingPhrase H α) (declared : List β) :
    (∃ q ∈ declared.flatMap fun b => (phrase b).declaredPatterns, q.Unrankable) ↔
      ∃ b ∈ declared, (phrase b).Unrankable := by
  simp only [List.mem_flatMap, ← PendingPhrase.exists_unrankable_iff]
  constructor
  · rintro ⟨q, ⟨b, hb, hq⟩, hunrankable⟩
    exact ⟨b, hb, q, hq, hunrankable⟩
  · rintro ⟨b, hb, q, hq, hunrankable⟩
    exact ⟨q, ⟨b, hb, hq⟩, hunrankable⟩

section Staging

/-- A computation that goes on after another one
fails like the first of the two that fails. -/
theorem refusal?_bind {ε : Type}
    {x : Except ε α} {f : α → Except ε β} {first later : Option ε}
    (hfirst : refusal? x = first)
    (hlater : ∀ a, refusal? (f a) = later) :
    refusal? (x >>= f) = first.or later := by
  rw [← hfirst]
  cases x with
  | error e =>
      rfl
  | ok a =>
      exact hlater a

theorem refusal?_compilePatterns
    [Regex.Dialect]
    (element : String) (needsRank : Bool) (sources : List String) (queue : Queue) :
    refusal? (compilePatterns element needsRank sources queue) =
      (sources.map fun source => DeclaredPattern.mk element source needsRank).findSome?
        DeclaredPattern.refusal? := by
  induction sources generalizing queue with
  | nil =>
      rfl
  | cons source sources ih =>
      rw [compilePatterns, List.map_cons, List.findSome?_cons, DeclaredPattern.refusal?]
      cases Pattern.compile source with
      | error d =>
          exact ih _
      | ok tree =>
          cases needsRank with
          | false =>
              simp only [Bool.false_and, Bool.false_eq_true, if_false, ← ih queue]
              cases compilePatterns element false sources queue <;> rfl
          | true =>
              cases hrank : tree.rank? with
              | none =>
                  simp [hrank, refusal?]
              | some rank =>
                  simp only [if_true, hrank, Option.isNone_some, Bool.and_false,
                    Bool.false_eq_true, if_false, ← ih queue]
                  cases compilePatterns element true sources queue <;> rfl

theorem refusal?_stagePhrase
    [Regex.Dialect]
    (addon : String) (p : PendingPhrase H α) (queue : Queue) :
    refusal? (stagePhrase addon p queue) =
      p.declaredPatterns.findSome? DeclaredPattern.refusal? := by
  rw [PendingPhrase.declaredPatterns,
    ← refusal?_compilePatterns p.element.name p.priority.isNone p.patterns queue,
    stagePhrase]
  split
  · rename_i e h
    rw [h]
    rfl
  · rename_i queue' h
    rw [h]
    rfl
  · rename_i compiled queue' hne h
    rw [h]
    rfl

theorem refusal?_stageAll
    [Regex.Dialect]
    (addon : String) (phrase : β → PendingPhrase H α) (finish : β → Phrase H α → γ)
    (declared : List β) (queue : Queue) :
    refusal? (stageAll addon phrase finish declared queue) =
      (declared.flatMap fun b => (phrase b).declaredPatterns).findSome?
        DeclaredPattern.refusal? := by
  induction declared generalizing queue with
  | nil =>
      rfl
  | cons b declared ih =>
      rw [List.flatMap_cons, List.findSome?_append,
        ← refusal?_stagePhrase addon (phrase b) queue, stageAll]
      cases stagePhrase addon (phrase b) queue with
      | error e =>
          rfl
      | ok staged =>
          rw [← ih staged.2]
          dsimp only
          cases stageAll addon phrase finish declared staged.2 <;> rfl

/-- Compiling a registration fails at the first of its patterns for which it has to. -/
theorem refusal?_stage
    [Regex.Dialect]
    (r : Registration H) (queue : Queue) :
    refusal? (r.stage queue) =
      r.declaredPatterns.findSome? DeclaredPattern.refusal? := by
  unfold Registration.stage Registration.declaredPatterns
  simp only [List.findSome?_append]
  refine refusal?_bind (refusal?_stageAll _ _ _ _ _) ?_
  rintro ⟨expressions, queue⟩
  refine refusal?_bind (refusal?_stageAll _ _ _ _ _) ?_
  rintro ⟨effects, queue⟩
  refine refusal?_bind (refusal?_stageAll _ _ _ _ _) ?_
  rintro ⟨sections, queue⟩
  rw [← Option.or_none (o := List.findSome? _ _)]
  refine refusal?_bind (refusal?_stageAll _ _ _ _ _) ?_
  rintro ⟨events, queue⟩
  rfl

end Staging

/-- What a registration is answered with, and the catalog afterwards. -/
def attempt
    [Regex.Dialect]
    (c : Catalog H) (r : Registration H) :
    Except RegistrationError (List Diagnostic) × Catalog H :=
  match c.register r with
  | .ok (ds, c') => (.ok ds, c')
  | .error e => (.error e, c)

theorem refusal?_attempt
    [Regex.Dialect]
    (c : Catalog H) (r : Registration H) :
    refusal? (c.attempt r).1 =
      r.declaredPatterns.findSome? DeclaredPattern.refusal? := by
  rw [← refusal?_stage r (Queue.empty c.config.limits), attempt, register]
  cases r.stage (Queue.empty c.config.limits) <;> rfl

theorem attempt_snd_of_refused
    [Regex.Dialect]
    {c : Catalog H} {r : Registration H} {e : RegistrationError}
    (h : (c.attempt r).1 = .error e) :
    (c.attempt r).2 = c := by
  unfold attempt at *
  split
  · rename_i hregister
    rw [hregister] at h
    cases h
  · rfl

theorem exists_refused_iff
    [Regex.Dialect]
    (c : Catalog H) (r : Registration H) :
    (∃ e, (c.attempt r).1 = .error e) ↔ ∃ q ∈ r.declaredPatterns, q.Unrankable := by
  simp only [← refusal?_eq_some_iff, refusal?_attempt]
  rw [← Option.isSome_iff_exists, List.findSome?_isSome_iff]
  simp only [Option.isSome_iff_exists,
    DeclaredPattern.refusal?_eq_some_iff, exists_and_left, exists_eq, and_true]

/-- The pattern that a refusal names is the first one for which there has to be one. -/
theorem first_unrankable_of_refused
    [Regex.Dialect]
    {c : Catalog H} {r : Registration H} {e : RegistrationError}
    (h : (c.attempt r).1 = .error e) :
    ∃ before p behind,
      r.declaredPatterns = before ++ p :: behind ∧
        (∀ q ∈ before, ¬q.Unrankable) ∧
        p.Unrankable ∧
        e = .unrankablePattern p.element p.source := by
  rw [← refusal?_eq_some_iff, refusal?_attempt, List.findSome?_eq_some_iff] at h
  obtain ⟨before, p, behind, hpatterns, hp, hbefore⟩ := h
  obtain ⟨hunrankable, rfl⟩ := DeclaredPattern.refusal?_eq_some_iff.1 hp
  refine ⟨before, p, behind, hpatterns, ?_, hunrankable, rfl⟩
  intro q hq
  exact DeclaredPattern.refusal?_eq_none_iff.1 (hbefore q hq)

/-- A registration is refused exactly if some expression, effect, section or event in it
is declared without a priority, and with a pattern that can be compiled but not ranked,
whatever else there is to be said about it and whatever was published before. The first
such pattern is named, and the catalog stays as it is. -/
theorem attempt_refused_iff
    [Regex.Dialect]
    (c : Catalog H) (r : Registration H) :
    ((∃ e, (c.attempt r).1 = .error e) ↔
        (∃ e ∈ r.expressions, e.phrase.Unrankable) ∨ (∃ p ∈ r.effects, p.Unrankable) ∨
          (∃ p ∈ r.sections, p.Unrankable) ∨ ∃ e ∈ r.events, e.phrase.Unrankable) ∧
      ∀ e,
        (c.attempt r).1 = .error e →
          (∃ before p behind,
            r.declaredPatterns = before ++ p :: behind ∧
              (∀ q ∈ before, ¬q.Unrankable) ∧
              p.Unrankable ∧
              e = .unrankablePattern p.element p.source) ∧
            (c.attempt r).2 = c := by
  constructor
  · rw [exists_refused_iff, Registration.declaredPatterns]
    simp only [List.mem_append, or_and_right, exists_or, exists_unrankable_flatMap_iff]
  · intro e h
    exact ⟨first_unrankable_of_refused h, attempt_snd_of_refused h⟩

section Unranked

/-- An expression of an unknown type, with a pattern that cannot be compiled and one that
cannot be ranked, and an effect with a pattern that cannot be ranked either. -/
def unranked : Registration ⟨Unit, Unit⟩ :=
  let expression := literal []
  let effect : Effect ⟨Unit, Unit⟩ :=
    { describe := fun _ => "", execute := fun v => v.toStore }
  ((Registration.empty "one").addExpression
    ⟨"colour", expression, fun _ _ => .ok expression⟩
    "shade" true ["(", "[red]"]).addEffect
      ⟨"wait", effect, fun _ _ => .ok effect⟩ ["[wait]"]

/-- The pattern of the expression is named, and nothing is published. -/
theorem attempt_refused_iff_unranked :
    let c : Catalog ⟨Unit, Unit⟩ := empty Config.standard
    (c.attempt unranked).1 = .error (.unrankablePattern "colour" "[red]") ∧
      (c.attempt unranked).2 = c ∧
      ((∃ e ∈ unranked.expressions, e.phrase.Unrankable) ∨
        (∃ p ∈ unranked.effects, p.Unrankable) ∨
        (∃ p ∈ unranked.sections, p.Unrankable) ∨
        ∃ e ∈ unranked.events, e.phrase.Unrankable) := by
  intro c
  have hrefused :
      (c.attempt unranked).1 = .error (.unrankablePattern "colour" "[red]") := by
    rw [← refusal?_eq_some_iff]
    cbv
  obtain ⟨hiff, hrest⟩ := attempt_refused_iff c unranked
  exact ⟨hrefused, (hrest _ hrefused).2, hiff.1 ⟨_, hrefused⟩⟩

end Unranked

end Catalog
end TriggerScript
