import Mathlib.Data.List.Forall2
import TriggerScript.Proofs.Catalog.Refusal
import TriggerScript.Proofs.Report.Oblivious

/-!
# Registrations under different limits

Compiling and publishing a registration does nothing with the queue of diagnostics but
report to it. Two catalogs that differ in the limits of their reports therefore accept
and refuse the same registrations, and go on differing in nothing else.
-/

namespace TriggerScript
namespace Catalog

open Script Report

variable {H : Host} {α β γ : Type}

section Staging

variable [Regex.Dialect]

theorem obliviousTry_compilePatterns
    (element : String) (needsRank : Bool) (sources : List String) :
    ObliviousTry (compilePatterns element needsRank sources) := by
  induction sources with
  | nil =>
      exact .ok (oblivious_pure [])
  | cons source sources ih =>
      change ObliviousTry fun queue =>
        compilePatterns element needsRank (source :: sources) queue
      cases hcompile : Pattern.compile source with
      | error d =>
          simp only [compilePatterns, hcompile]
          exact ih.push _
      | ok tree =>
          cases hrank : if needsRank then tree.rank? else some Pattern.textRank with
          | none =>
              simp only [compilePatterns, hcompile, hrank]
              exact .error _
          | some rank =>
              obtain ⟨outcome, ih⟩ := ih
              simp only [compilePatterns, hcompile, hrank, ih]
              cases outcome with
              | error e =>
                  exact .error e
              | ok x =>
                  exact ⟨.ok (_, x.2), fun _ => rfl⟩

theorem obliviousTry_stagePhrase
    (addon : String) (p : PendingPhrase H α) :
    ObliviousTry (stagePhrase addon p) := by
  obtain ⟨outcome, h⟩ :=
    obliviousTry_compilePatterns p.element.name p.priority.isNone p.patterns
  unfold stagePhrase
  simp only [h]
  cases outcome with
  | error e =>
      exact .error e
  | ok x =>
      obtain ⟨compiled, reports⟩ := x
      cases compiled with
      | nil =>
          refine ⟨.ok (none, reports ++ [noPatternLeft p.element.name]), ?_⟩
          intro queue
          simp only [Except.map, Queue.extend_append]
          rfl
      | cons first others =>
          exact ⟨.ok (_, reports), fun _ => rfl⟩

theorem obliviousTry_stageAll
    (addon : String) (phrase : β → PendingPhrase H α) (finish : β → Phrase H α → γ)
    (declared : List β) :
    ObliviousTry (stageAll addon phrase finish declared) := by
  induction declared with
  | nil =>
      exact .ok (oblivious_pure [])
  | cons b declared ih =>
      change ObliviousTry fun queue => stageAll addon phrase finish (b :: declared) queue
      obtain ⟨outcome, h⟩ := obliviousTry_stagePhrase addon (phrase b)
      obtain ⟨outcome', ih⟩ := ih
      simp only [stageAll, h]
      cases outcome with
      | error e =>
          exact .error e
      | ok x =>
          simp only [Except.map, ih]
          cases outcome' with
          | error e =>
              exact .error e
          | ok x' =>
              refine ⟨.ok ((x.1.map (finish b)).toList ++ x'.1, x.2 ++ x'.2), ?_⟩
              intro queue
              simp only [Except.map, Queue.extend_append]

theorem obliviousTry_stage
    (r : Registration H) :
    ObliviousTry r.stage := by
  refine (obliviousTry_stageAll _ _ _ _).bind ?_
  intro expressions
  refine (obliviousTry_stageAll _ _ _ _).bind ?_
  intro effects
  refine (obliviousTry_stageAll _ _ _ _).bind ?_
  intro sections
  refine (obliviousTry_stageAll _ _ _ _).bind ?_
  intro events
  exact .ok (oblivious_pure _)

end Staging

section Publishing

theorem oblivious_checkPatterns
    (types : Typing.Registry) (element : String) (patterns : List CompiledPattern) :
    Oblivious (checkPatterns types element patterns) := by
  induction patterns with
  | nil =>
      exact oblivious_pure []
  | cons p patterns ih =>
      change Oblivious fun queue => checkPatterns types element (p :: patterns) queue
      cases hslot : unknownSlotType? types p.tree with
      | some name =>
          simp only [checkPatterns, hslot]
          exact ih.push _
      | none =>
          simp only [checkPatterns, hslot]
          exact ih.bind fun others => oblivious_pure (p :: others)

theorem oblivious_checkPhrase
    (types : Typing.Registry) (p : Phrase H α) :
    Oblivious (checkPhrase types p) := by
  obtain ⟨patterns, reports, h⟩ :=
    oblivious_checkPatterns types p.element.name p.patterns
  unfold checkPhrase
  simp only [h]
  cases patterns with
  | nil =>
      refine ⟨none, reports ++ [noPatternLeft p.element.name], ?_⟩
      intro queue
      rw [Queue.extend_append]
      rfl
  | cons first others =>
      exact ⟨_, reports, fun _ => rfl⟩

theorem oblivious_checkPhrases
    (types : Typing.Registry) (phrases : List (Phrase H α)) :
    Oblivious (checkPhrases types phrases) := by
  induction phrases with
  | nil =>
      exact oblivious_pure []
  | cons p phrases ih =>
      exact (oblivious_checkPhrase types p).bind fun checked =>
        ih.bind fun others => oblivious_pure (checked.toList ++ others)

theorem oblivious_checkExpressions
    (types : Typing.Registry)
    (expressions : List (Phrase H (Expression H) × String × Bool)) :
    Oblivious (checkExpressions types expressions) := by
  induction expressions with
  | nil =>
      exact oblivious_pure []
  | cons e expressions ih =>
      obtain ⟨p, returnType, isSingle⟩ := e
      change Oblivious fun queue =>
        checkExpressions types ((p, returnType, isSingle) :: expressions) queue
      cases htype : types.idOf? returnType with
      | none =>
          simp only [checkExpressions, htype]
          exact ih.push _
      | some id =>
          simp only [checkExpressions, htype]
          exact (oblivious_checkPhrase types p).bind fun checked =>
            ih.bind fun others => oblivious_pure
              ((checked.map fun p => ExpressionEntry.mk p id isSingle).toList ++ others)

theorem oblivious_checkEvents
    (types : Typing.Registry) (events : List (EventEntry H)) :
    Oblivious (checkEvents types events) := by
  induction events with
  | nil =>
      exact oblivious_pure []
  | cons e events ih =>
      exact (oblivious_checkPhrase types e.phrase).bind fun checked =>
        ih.bind fun others => oblivious_pure
          ((checked.map fun p => { e with phrase := p }).toList ++ others)

/-- Publishing declarations one after the other only reports if publishing each of them
either succeeds or changes nothing and reports. -/
theorem oblivious_of_each {σ δ : Type}
    {publish : σ → Queue → List δ → σ × Queue}
    (hnil : ∀ s queue, publish s queue [] = (s, queue))
    (hcons : ∀ s d,
      (∃ s', ∀ queue ds, publish s queue (d :: ds) = publish s' queue ds) ∨
        ∃ report, ∀ queue ds,
          publish s queue (d :: ds) = publish s (queue.push report) ds)
    (s : σ) (ds : List δ) :
    Oblivious fun queue => publish s queue ds := by
  induction ds generalizing s with
  | nil =>
      simp only [hnil]
      exact oblivious_pure s
  | cons d ds ih =>
      rcases hcons s d with ⟨s', hpublish⟩ | ⟨report, hpublish⟩
      · simp only [hpublish]
        exact ih s'
      · simp only [hpublish]
        exact (ih s).push report

theorem oblivious_publishTypes
    (s : TypeSystem) (ds : List Typing.TypeDeclaration) :
    Oblivious fun queue => publishTypes s queue ds := by
  refine oblivious_of_each (fun _ _ => rfl) ?_ s ds
  intro s d
  cases h : s.registerType d with
  | ok r =>
      exact Or.inl ⟨r.2, fun queue ds => by rw [publishTypes, h]⟩
  | error refusal =>
      exact Or.inr ⟨refusal.diagnostic, fun queue ds => by rw [publishTypes, h]⟩

theorem oblivious_publishConverters
    (s : TypeSystem) (ds : List Conversion.ConverterDeclaration) :
    Oblivious fun queue => publishConverters s queue ds := by
  refine oblivious_of_each (fun _ _ => rfl) ?_ s ds
  intro s d
  cases h : s.registerConverter d with
  | ok s' =>
      exact Or.inl ⟨s', fun queue ds => by rw [publishConverters, h]⟩
  | error refusal =>
      exact Or.inr ⟨refusal.diagnostic, fun queue ds => by rw [publishConverters, h]⟩

theorem oblivious_publishComparators
    (s : TypeSystem) (ds : List Comparison.ComparatorDeclaration) :
    Oblivious fun queue => publishComparators s queue ds := by
  refine oblivious_of_each (fun _ _ => rfl) ?_ s ds
  intro s d
  cases h : s.registerComparator d with
  | ok s' =>
      exact Or.inl ⟨s', fun queue ds => by rw [publishComparators, h]⟩
  | error refusal =>
      exact Or.inr ⟨refusal.diagnostic, fun queue ds => by rw [publishComparators, h]⟩

theorem oblivious_publishContextValues
    (types : Typing.Registry) (values : ContextValues H)
    (vs : List (PendingContextValue H)) :
    Oblivious fun queue => publishContextValues types values queue vs := by
  refine oblivious_of_each (fun _ _ => rfl) ?_ values vs
  intro values v
  cases h : (resolveContextValue types v).bind values.add with
  | ok values' =>
      exact Or.inl ⟨values', fun queue vs => by rw [publishContextValues, h]⟩
  | error d =>
      exact Or.inr ⟨d, fun queue vs => by rw [publishContextValues, h]⟩

theorem oblivious_publish
    (c : Catalog H) (b : Batch H) :
    Oblivious (c.publish b) := by
  obtain ⟨s₁, reports₁, h₁⟩ := oblivious_publishTypes c.types b.types
  obtain ⟨s₂, reports₂, h₂⟩ := oblivious_publishConverters s₁ b.converters
  obtain ⟨s₃, reports₃, h₃⟩ := oblivious_publishComparators s₂ b.comparators
  obtain ⟨expressions, reports₄, h₄⟩ := oblivious_checkExpressions s₃.types b.expressions
  obtain ⟨effects, reports₅, h₅⟩ := oblivious_checkPhrases s₃.types b.effects
  obtain ⟨sections, reports₆, h₆⟩ := oblivious_checkPhrases s₃.types b.sections
  obtain ⟨events, reports₇, h₇⟩ := oblivious_checkEvents s₃.types b.events
  obtain ⟨values, reports₈, h₈⟩ :=
    oblivious_publishContextValues s₃.types c.contextValues b.contextValues
  refine ⟨?catalog,
    reports₁ ++ reports₂ ++ reports₃ ++ reports₄ ++ reports₅ ++ reports₆ ++
      reports₇ ++ reports₈,
    ?reported⟩
  case reported =>
    intro queue
    simp only [publish, h₁, h₂, h₃, h₄, h₅, h₆, h₇, h₈, Queue.extend_append]
    rfl

end Publishing

/-- The same catalog with other limits for what it reports. -/
def withLimits
    (c : Catalog H) (limits : Limits) : Catalog H :=
  { c with config := { c.config with limits := limits } }

/-- The limits only decide which of the same reports a registration is answered with. -/
theorem attempt_withLimits
    [Regex.Dialect]
    (c : Catalog H) (r : Registration H) :
    ∃ (reports : Except RegistrationError (List Diagnostic)) (c' : Catalog H), ∀ limits,
      (c.withLimits limits).attempt r =
        (reports.map limits.kept, c'.withLimits limits) := by
  obtain ⟨staged, hstage⟩ := obliviousTry_stage r
  cases staged with
  | error e =>
      refine ⟨.error e, c, ?_⟩
      intro limits
      simp only [attempt, register, hstage]
      rfl
  | ok x =>
      obtain ⟨batch, reports⟩ := x
      obtain ⟨c', more, hpublish⟩ := oblivious_publish c batch
      refine ⟨.ok (reports ++ more), c', ?_⟩
      intro limits
      have hwith (queue : Queue) :
          (c.withLimits limits).publish batch queue =
            (c'.withLimits limits, queue.extend more) :=
        congrArg (fun x => (x.1.withLimits limits, x.2)) (hpublish queue)
      have hkept : limits.kept (reports ++ more) =
          (((Queue.empty limits).extend reports).extend more).kept := by
        rw [Limits.kept, Queue.extend_append]
      simp only [attempt, register, hstage, Except.map, hwith, hkept]
      rfl

/-- What several registrations are answered with, one
after the other, and the catalog after each of them. -/
def attempts
    [Regex.Dialect]
    (c : Catalog H) :
    List (Registration H) → List (Except RegistrationError (List Diagnostic) × Catalog H)
  | [] => []
  | r :: rs => c.attempt r :: attempts (c.attempt r).2 rs

/-- Catalogs that differ in their limits are alike in what they are answered and in what
they hold, however many registrations there are. -/
theorem attempts_withLimits
    [Regex.Dialect]
    (c : Catalog H) (limits limits' : Limits) (rs : List (Registration H)) :
    List.Forall₂
      (fun x x' =>
        (∃ reports : Except RegistrationError (List Diagnostic),
          x.1 = reports.map limits.kept ∧ x'.1 = reports.map limits'.kept) ∧
        x'.2 = x.2.withLimits limits')
      ((c.withLimits limits).attempts rs) ((c.withLimits limits').attempts rs) := by
  induction rs generalizing c with
  | nil =>
      exact .nil
  | cons r rs ih =>
      obtain ⟨reports, c', h⟩ := attempt_withLimits c r
      simp only [attempts, h]
      exact .cons ⟨⟨reports, rfl, rfl⟩, rfl⟩ (ih c')

end Catalog
end TriggerScript
