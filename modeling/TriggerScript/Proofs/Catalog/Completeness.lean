import TriggerScript.Proofs.Catalog.Additions
import TriggerScript.Proofs.Catalog.Integrity
import TriggerScript.Regex.Acceptance

/-!
# Complete registrations

A registration that is accepted may still lose declarations and patterns. The diagnostics
that come back tell whether it did: there are none exactly if everything was published,
each element with all of its patterns. This does not depend on the limits of the
diagnostics, which never leave out the first one.
-/

namespace TriggerScript
namespace Catalog

open Script Report Typing Conversion Comparison

variable {H : Host} {α β γ : Type}

section Elements

variable (types : Typing.Registry) (addon : String)

/-- Whether a published element is the one that was
declared, with all of its patterns in order. -/
structure PendingPhrase.InFull
    [Regex.Dialect]
    (p : PendingPhrase H α) (q : Phrase H α) : Prop where
  element : q.element = p.element
  sources : q.patterns.map CompiledPattern.source = p.patterns
  ne_nil : q.patterns ≠ []
  compiled : ∀ c ∈ q.patterns, Pattern.compile c.source = .ok c.tree
  known : ∀ c ∈ q.patterns, ∀ word ∈ c.words, (types.sense? word).isSome = true
  priority : q.priority = p.priority.getD (inferredPriority q.patterns)
  addon : q.addon = addon

/-- Whether a published expression is the one that was declared, in full. -/
structure PendingExpression.InFull
    [Regex.Dialect]
    (p : PendingExpression H) (e : ExpressionEntry H) : Prop where
  phrase : p.phrase.InFull types addon e.phrase
  returnType : types.idOf? p.returnType = some e.returnType
  isSingle : e.isSingle = p.isSingle

/-- Whether a published event is the one that was declared, in full. -/
structure PendingEvent.InFull
    [Regex.Dialect]
    (p : PendingEvent H) (e : EventEntry H) : Prop where
  phrase : p.phrase.InFull types addon e.phrase
  contexts : e.contexts = p.contexts

structure EntersTag
    (p : PendingTag) (t : TagEntry) : Prop where
  name : t.name = p.name
  blueprint : t.blueprint = p.blueprint
  priority : t.priority = p.priority
  addon : t.addon = addon

variable {types addon}

theorem known?_of_known
    {p : Phrase H α}
    (h : p.Known types) :
    p.known? types = some p := by
  have hpatterns := List.filter_eq_self.2 h.known
  rw [Phrase.known?, hpatterns, if_neg h.ne_nil]

/-- An element is published in full if its patterns can be compiled, and the slots of
what they are compiled to name known types. -/
theorem PendingPhrase.inFull_iff
    [Regex.Dialect]
    {p : PendingPhrase H α} {q : Phrase H α} :
    p.InFull types addon q ↔
      p.Compiles ∧ p.compiled? addon = some q ∧ q.Known types := by
  constructor
  · intro h
    have hpatterns : compiledPatterns p.patterns = q.patterns := by
      rw [← h.sources, compiledPatterns_map_source h.compiled]
    refine ⟨⟨?_, ?_⟩, ?_, ⟨h.ne_nil, ?_⟩⟩
    · rw [← h.sources]
      exact mt List.map_eq_nil_iff.1 h.ne_nil
    · rw [← h.sources]
      refine List.forall_mem_map.2 ?_
      intro c hc
      exact ⟨c.tree, h.compiled c hc⟩
    · rw [PendingPhrase.compiled?, hpatterns, if_neg h.ne_nil, ← h.priority,
        ← h.element, ← h.addon]
    · intro c hc
      exact List.all_eq_true.2 (h.known c hc)
  · rintro ⟨hcompiles, hcompiled, hknown⟩
    unfold PendingPhrase.compiled? at hcompiled
    split at hcompiled
    · cases hcompiled
    · rename_i hne
      cases hcompiled
      refine ⟨rfl, map_source_compiledPatterns hcompiles.compiled, hne, ?_, ?_, rfl, rfl⟩
      · intro c hc
        exact (mem_compiledPatterns_iff.1 hc).2
      · intro c hc
        exact List.all_eq_true.1 (hknown.known c hc)

theorem PendingPhrase.Compiles.exists_compiled?
    [Regex.Dialect]
    {p : PendingPhrase H α}
    (h : p.Compiles) (addon : String) :
    ∃ q, p.compiled? addon = some q := by
  have hne : compiledPatterns p.patterns ≠ [] := by
    intro hnil
    have hsources := map_source_compiledPatterns h.compiled
    rw [hnil] at hsources
    exact h.ne_nil hsources.symm
  exact ⟨_, if_neg hne⟩

theorem PendingPhrase.exists_inFull_iff
    [Regex.Dialect]
    {p : PendingPhrase H α} :
    (∃ q, p.InFull types addon q) ↔
      p.Compiles ∧ ∀ q, p.compiled? addon = some q → q.Known types := by
  constructor
  · rintro ⟨q, h⟩
    obtain ⟨hcompiles, hcompiled, hknown⟩ := PendingPhrase.inFull_iff.1 h
    refine ⟨hcompiles, ?_⟩
    rw [hcompiled]
    rintro q' ⟨⟩
    exact hknown
  · rintro ⟨hcompiles, hknown⟩
    obtain ⟨q, hq⟩ := hcompiles.exists_compiled? addon
    exact ⟨q, PendingPhrase.inFull_iff.2 ⟨hcompiles, hq, hknown q hq⟩⟩

/-- An element that can be published in full is published so. -/
theorem PendingPhrase.accepted?_of_inFull
    [Regex.Dialect]
    {p : PendingPhrase H α} {q : Phrase H α}
    (h : p.InFull types addon q) :
    p.accepted? types addon = some q := by
  obtain ⟨-, hcompiled, hknown⟩ := PendingPhrase.inFull_iff.1 h
  rw [PendingPhrase.accepted?, hcompiled, Option.bind_some]
  exact known?_of_known hknown

theorem PendingExpression.exists_inFull_iff
    [Regex.Dialect]
    {p : PendingExpression H} :
    (∃ e, p.InFull types addon e) ↔
      p.phrase.Compiles ∧
        ∀ t, ((p.phrase.compiled? addon).map fun q => (q, p.returnType, p.isSingle)) =
            some t →
          (types.idOf? t.2.1).isSome = true ∧ t.1.Known types := by
  constructor
  · rintro ⟨e, hphrase, htype, -⟩
    obtain ⟨hcompiles, hcompiled, hknown⟩ := PendingPhrase.inFull_iff.1 hphrase
    refine ⟨hcompiles, ?_⟩
    rw [hcompiled]
    rintro t ⟨⟩
    exact ⟨Option.isSome_iff_exists.2 ⟨_, htype⟩, hknown⟩
  · rintro ⟨hcompiles, hknown⟩
    obtain ⟨q, hq⟩ := hcompiles.exists_compiled? addon
    rw [hq] at hknown
    obtain ⟨htype, hknown⟩ := hknown _ rfl
    obtain ⟨id, hid⟩ := Option.isSome_iff_exists.1 htype
    exact ⟨⟨q, id, p.isSingle⟩,
      PendingPhrase.inFull_iff.2 ⟨hcompiles, hq, hknown⟩, hid, rfl⟩

theorem PendingExpression.accepted?_of_inFull
    [Regex.Dialect]
    {p : PendingExpression H} {e : ExpressionEntry H}
    (h : p.InFull types addon e) :
    p.accepted? types addon = some e := by
  obtain ⟨-, hcompiled, hknown⟩ := PendingPhrase.inFull_iff.1 h.phrase
  simp [PendingExpression.accepted?, knownExpression?, hcompiled, h.returnType,
    known?_of_known hknown, ← h.isSingle]

theorem PendingEvent.exists_inFull_iff
    [Regex.Dialect]
    {p : PendingEvent H} :
    (∃ e, p.InFull types addon e) ↔
      p.phrase.Compiles ∧
        ∀ e, ((p.phrase.compiled? addon).map fun q => EventEntry.mk q p.contexts) =
            some e →
          e.phrase.Known types := by
  constructor
  · rintro ⟨e, hphrase, -⟩
    obtain ⟨hcompiles, hcompiled, hknown⟩ := PendingPhrase.inFull_iff.1 hphrase
    refine ⟨hcompiles, ?_⟩
    rw [hcompiled]
    rintro e' ⟨⟩
    exact hknown
  · rintro ⟨hcompiles, hknown⟩
    obtain ⟨q, hq⟩ := hcompiles.exists_compiled? addon
    rw [hq] at hknown
    exact ⟨⟨q, p.contexts⟩,
      PendingPhrase.inFull_iff.2 ⟨hcompiles, hq, hknown _ rfl⟩, rfl⟩

theorem PendingEvent.accepted?_of_inFull
    [Regex.Dialect]
    {p : PendingEvent H} {e : EventEntry H}
    (h : p.InFull types addon e) :
    p.accepted? types addon = some e := by
  obtain ⟨-, hcompiled, hknown⟩ := PendingPhrase.inFull_iff.1 h.phrase
  simp [PendingEvent.accepted?, EventEntry.known?, hcompiled,
    known?_of_known hknown, ← h.contexts]

end Elements

section Lists

/-- There is an entry for each declaration in the
end exactly if each of them could have one. -/
theorem adds_iff_of_perm
    {R : β → γ → Prop} {accept : β → Option γ} {declared : List β}
    {before after : List γ}
    (haccept : ∀ d e, R d e → accept d = some e)
    (hperm : after.Perm (before ++ declared.filterMap accept)) :
    Adds R declared before after ↔ ∀ d ∈ declared, ∃ e, R d e := by
  constructor
  · rintro ⟨added, hadded, -⟩
    clear hperm
    induction hadded with
    | nil =>
        simp
    | cons hR _ ih =>
        exact List.forall_mem_cons.2 ⟨⟨_, hR⟩, ih⟩
  · intro h
    refine ⟨declared.filterMap accept, ?_, hperm⟩
    clear hperm
    induction declared with
    | nil =>
        exact .nil
    | cons d declared ih =>
        obtain ⟨⟨e, hR⟩, hdeclared⟩ := List.forall_mem_cons.1 h
        rw [List.filterMap_cons_some (haccept d e hR)]
        exact .cons hR (ih hdeclared)

/-- What is checked in two stages is checked for each declaration on its own. -/
theorem forall_and_forall_filterMap_iff
    {f : β → Option γ} {C F : β → Prop} {K : γ → Prop}
    (hF : ∀ d, F d ↔ C d ∧ ∀ g, f d = some g → K g)
    (declared : List β) :
    ((∀ d ∈ declared, C d) ∧ ∀ g ∈ declared.filterMap f, K g) ↔ ∀ d ∈ declared, F d := by
  constructor
  · rintro ⟨hC, hK⟩ d hd
    exact (hF d).2 ⟨hC d hd, fun g hg => hK g (List.mem_filterMap.2 ⟨d, hd, hg⟩)⟩
  · intro h
    refine ⟨fun d hd => ((hF d).1 (h d hd)).1, ?_⟩
    intro g hg
    obtain ⟨d, hd, hdg⟩ := List.mem_filterMap.1 hg
    exact ((hF d).1 (h d hd)).2 g hdg

end Lists

section Publication

/-- Whether nothing of a compiled registration is lost between two catalogs. -/
structure Batch.Complete
    (b : Batch H) (c c' : Catalog H) : Prop where
  types : Adds (EntersType c'.types.types) b.types c.types.types.entries
    c'.types.types.entries
  converters :
    Adds (fun d x => ConverterDeclaration.resolved? c'.types.types d = some x)
      b.converters c.types.converters.declared c'.types.converters.declared
  comparators :
    Adds (fun d e => ComparatorDeclaration.resolved? c'.types.types d = some e)
      b.comparators c.types.comparators c'.types.comparators
  expressions :
    ∀ e ∈ b.expressions, (c'.types.types.idOf? e.2.1).isSome = true ∧
      e.1.Known c'.types.types
  effects : ∀ p ∈ b.effects, p.Known c'.types.types
  sections : ∀ p ∈ b.sections, p.Known c'.types.types
  events : ∀ e ∈ b.events, e.phrase.Known c'.types.types
  contextValues :
    Adds (EntersContextValue c'.types.types) b.contextValues c.contextValues.values
      c'.contextValues.values

variable (s : TypeSystem) (queue : Queue)

theorem publishTypes_keeps
    (ds : List TypeDeclaration) :
    (publishTypes s queue ds).1.converters = s.converters ∧
      (publishTypes s queue ds).1.comparators = s.comparators := by
  rw [publishTypes_fst]
  constructor
  · exact TypeSystem.performAll_map_keeps
      (fun d s => (TypeSystem.registerType_keeps s d).1) s ds
  · exact TypeSystem.performAll_map_keeps
      (fun d s => (TypeSystem.registerType_keeps s d).2) s ds

theorem publishConverters_keeps
    (ds : List ConverterDeclaration) :
    (publishConverters s queue ds).1.types = s.types ∧
      (publishConverters s queue ds).1.comparators = s.comparators := by
  rw [publishConverters_fst]
  constructor
  · exact TypeSystem.performAll_map_keeps
      (fun d s => (TypeSystem.registerConverter_keeps s d).1) s ds
  · exact TypeSystem.performAll_map_keeps
      (fun d s => (TypeSystem.registerConverter_keeps s d).2) s ds

theorem publishComparators_keeps
    (ds : List ComparatorDeclaration) :
    (publishComparators s queue ds).1.types = s.types ∧
      (publishComparators s queue ds).1.converters = s.converters := by
  rw [publishComparators_fst]
  constructor
  · exact TypeSystem.performAll_map_keeps
      (fun d s => (TypeSystem.registerComparator_keeps s d).1) s ds
  · exact TypeSystem.performAll_map_keeps
      (fun d s => (TypeSystem.registerComparator_keeps s d).2) s ds

/-- Chains that are added are neither types nor declared converters nor comparators. -/
theorem chaining_keeps
    (config : Config) :
    (s.performAll config.chaining).types = s.types ∧
      (s.performAll config.chaining).converters.declared = s.converters.declared ∧
      (s.performAll config.chaining).comparators = s.comparators := by
  have htypes := types_performAll_chaining config s
  rw [performAll_chaining] at htypes ⊢
  refine ⟨htypes, ?_⟩
  split
  · exact ⟨TypeSystem.declared_deriveChains s, (TypeSystem.deriveChains_keeps s).2⟩
  · exact ⟨rfl, rfl⟩

/-- Publishing types, converters and comparators
reports nothing exactly if none is lost. -/
theorem publishSystem_reports
    (b : Batch H)
    (hs : s.Sound) :
    let typed := publishTypes s queue b.types
    let converting := publishConverters typed.1 typed.2 b.converters
    let comparing := publishComparators converting.1 converting.2 b.comparators
    let types := comparing.1.types
    queue.ReportsUnless comparing.2
      (Adds (EntersType types) b.types s.types.entries types.entries ∧
        Adds (fun d x => ConverterDeclaration.resolved? types d = some x) b.converters
          s.converters.declared comparing.1.converters.declared ∧
        Adds (fun d e => ComparatorDeclaration.resolved? types d = some e) b.comparators
          s.comparators comparing.1.comparators) := by
  intro typed converting comparing types
  obtain ⟨htyped, htyped'⟩ := publishTypes_keeps s queue b.types
  obtain ⟨hconverting, hconverting'⟩ :=
    publishConverters_keeps typed.1 typed.2 b.converters
  obtain ⟨hcomparing, hcomparing'⟩ :=
    publishComparators_keeps converting.1 converting.2 b.comparators
  have htypes : types = typed.1.types := hcomparing.trans hconverting
  have hreports := publishesEach_types.reports s queue b.types hs
  have hreports' :=
    (publishesEach_converters typed.1.types).reports typed.1 typed.2 b.converters rfl
  have hreports'' :=
    (publishesEach_comparators typed.1.types).reports converting.1 converting.2
      b.comparators hconverting
  rw [htyped, ← hcomparing'] at hreports'
  rw [hconverting', htyped'] at hreports''
  rw [htypes]
  exact hreports.trans (hreports'.trans hreports'')

/-- Checking elements reports nothing exactly if
none of them and of their patterns is lost. -/
theorem checkElements_reports
    (types : Typing.Registry) (b : Batch H) :
    let expressions := checkExpressions types b.expressions queue
    let effects := checkPhrases types b.effects expressions.2
    let sections := checkPhrases types b.sections effects.2
    let events := checkEvents types b.events sections.2
    queue.ReportsUnless events.2
      ((∀ e ∈ b.expressions, (types.idOf? e.2.1).isSome = true ∧ e.1.Known types) ∧
        (∀ p ∈ b.effects, p.Known types) ∧
        (∀ p ∈ b.sections, p.Known types) ∧
        ∀ e ∈ b.events, e.phrase.Known types) := by
  intro expressions effects sections events
  have hexpressions := checkExpressions_reports types b.expressions queue
  have heffects := checkPhrases_reports types b.effects expressions.2
  have hsections := checkPhrases_reports types b.sections effects.2
  have hevents := checkEvents_reports types b.events sections.2
  exact hexpressions.trans (heffects.trans (hsections.trans hevents))

/-- Publishing reports nothing exactly if nothing is lost. -/
theorem publish_reports
    (c : Catalog H) (b : Batch H)
    (hs : c.types.Sound) :
    queue.ReportsUnless (c.publish b queue).2 (b.Complete c (c.publish b queue).1) := by
  let typed := publishTypes c.types queue b.types
  let converting := publishConverters typed.1 typed.2 b.converters
  let comparing := publishComparators converting.1 converting.2 b.comparators
  let expressions := checkExpressions comparing.1.types b.expressions comparing.2
  let effects := checkPhrases comparing.1.types b.effects expressions.2
  let sections := checkPhrases comparing.1.types b.sections effects.2
  let events := checkEvents comparing.1.types b.events sections.2
  have hsystem := publishSystem_reports c.types queue b hs
  have helements := checkElements_reports comparing.2 comparing.1.types b
  have hvalues :=
    (publishesEach_contextValues comparing.1.types).reports c.contextValues events.2
      b.contextValues trivial
  have hchained :
      (c.publish b queue).1.types = comparing.1.performAll c.config.chaining :=
    (performAll_chaining c.config comparing.1).symm
  obtain ⟨htypes, hconverters, hcomparators⟩ := chaining_keeps comparing.1 c.config
  rw [← hchained] at htypes hconverters hcomparators
  refine (hsystem.trans (helements.trans hvalues)).congr ?_
  change _ ∧ _ ∧ Adds (EntersContextValue comparing.1.types) b.contextValues
    c.contextValues.values (c.publish b queue).1.contextValues.values ↔ _
  rw [← htypes, ← hconverters, ← hcomparators]
  constructor
  · rintro ⟨⟨h₁, h₂, h₃⟩, ⟨h₄, h₅, h₆, h₇⟩, h₈⟩
    exact ⟨h₁, h₂, h₃, h₄, h₅, h₆, h₇, h₈⟩
  · rintro ⟨h₁, h₂, h₃, h₄, h₅, h₆, h₇, h₈⟩
    exact ⟨⟨h₁, h₂, h₃⟩, ⟨h₄, h₅, h₆, h₇⟩, h₈⟩

end Publication

/-- Whether everything in a registration is published between two catalogs, each element
with all of its patterns, and nothing else but chains of converters. -/
structure Registration.PublishedInFull
    [Regex.Dialect]
    (r : Registration H) (c c' : Catalog H) : Prop where
  types : Adds (EntersType c'.types.types) r.types c.types.types.entries
    c'.types.types.entries
  converters :
    Adds (fun d x => ConverterDeclaration.resolved? c'.types.types d = some x)
      r.converters c.types.converters.declared c'.types.converters.declared
  comparators :
    Adds (fun d e => ComparatorDeclaration.resolved? c'.types.types d = some e)
      r.comparators c.types.comparators c'.types.comparators
  expressions :
    Adds (PendingExpression.InFull c'.types.types r.addon) r.expressions
      c.expressions c'.expressions
  effects : Adds (PendingPhrase.InFull c'.types.types r.addon) r.effects
    c.effects c'.effects
  sections : Adds (PendingPhrase.InFull c'.types.types r.addon) r.sections
    c.sections c'.sections
  events : Adds (PendingEvent.InFull c'.types.types r.addon) r.events c.events c'.events
  contextValues :
    Adds (EntersContextValue c'.types.types) r.contextValues c.contextValues.values
      c'.contextValues.values
  tags : Adds (EntersTag r.addon) r.tags c.tags c'.tags

theorem Publishes.perm
    [Regex.Dialect]
    {c c' : Catalog H} {r : Registration H}
    (h : Publishes c r c') (k : Category) :
    (c'.published k).Perm (c.published k ++ r.accepted c'.types.types k) := by
  rw [h.published k]
  exact perm_sortByRank _

/-- Elements of one kind are published in full exactly if each of them could be. -/
theorem Publishes.adds_iff
    [Regex.Dialect]
    {c c' : Catalog H} {r : Registration H}
    (h : Publishes c r c') (k : Category)
    {R : β → k.Entry H → Prop} {accept : β → Option (k.Entry H)} {declared : List β}
    (haccept : ∀ d e, R d e → accept d = some e)
    (haccepted : r.accepted c'.types.types k = declared.filterMap accept) :
    Adds R declared (c.published k) (c'.published k) ↔ ∀ d ∈ declared, ∃ e, R d e := by
  refine adds_iff_of_perm haccept ?_
  rw [← haccepted]
  exact h.perm k

/-- A registration is published in full if nothing is lost
while it is compiled, and nothing while it is published. -/
theorem Publishes.inFull_iff
    [Regex.Dialect]
    {c c' : Catalog H} {r : Registration H}
    (h : Publishes c r c') :
    r.PublishedInFull c c' ↔ r.Compiles ∧ r.batch.Complete c c' := by
  let types := c'.types.types
  have hexpressions :
      Adds (PendingExpression.InFull types r.addon) r.expressions
        c.expressions c'.expressions ↔
        (∀ e ∈ r.expressions, e.phrase.Compiles) ∧
          ∀ t ∈ r.batch.expressions, (types.idOf? t.2.1).isSome = true ∧
            t.1.Known types := by
    refine Iff.trans
      (h.adds_iff .expressions (fun _ _ => PendingExpression.accepted?_of_inFull) rfl) ?_
    exact (forall_and_forall_filterMap_iff
      (fun _ => PendingExpression.exists_inFull_iff) _).symm
  have heffects :
      Adds (PendingPhrase.InFull types r.addon) r.effects c.effects c'.effects ↔
        (∀ p ∈ r.effects, p.Compiles) ∧ ∀ p ∈ r.batch.effects, p.Known types := by
    refine Iff.trans
      (h.adds_iff .effects (fun _ _ => PendingPhrase.accepted?_of_inFull) rfl) ?_
    exact (forall_and_forall_filterMap_iff
      (fun _ => PendingPhrase.exists_inFull_iff) _).symm
  have hsections :
      Adds (PendingPhrase.InFull types r.addon) r.sections c.sections c'.sections ↔
        (∀ p ∈ r.sections, p.Compiles) ∧ ∀ p ∈ r.batch.sections, p.Known types := by
    refine Iff.trans
      (h.adds_iff .sections (fun _ _ => PendingPhrase.accepted?_of_inFull) rfl) ?_
    exact (forall_and_forall_filterMap_iff
      (fun _ => PendingPhrase.exists_inFull_iff) _).symm
  have hevents :
      Adds (PendingEvent.InFull types r.addon) r.events c.events c'.events ↔
        (∀ e ∈ r.events, e.phrase.Compiles) ∧
          ∀ e ∈ r.batch.events, e.phrase.Known types := by
    refine Iff.trans
      (h.adds_iff .events (fun _ _ => PendingEvent.accepted?_of_inFull) rfl) ?_
    exact (forall_and_forall_filterMap_iff
      (fun _ => PendingEvent.exists_inFull_iff) _).symm
  have htags : Adds (EntersTag r.addon) r.tags c.tags c'.tags := by
    refine ⟨r.accepted types .tags, ?_, h.perm .tags⟩
    refine List.forall₂_map_right_iff.2 (List.forall₂_same.2 ?_)
    intro t _
    exact ⟨rfl, rfl, rfl, rfl⟩
  constructor
  · intro h
    have h₄ := hexpressions.1 h.expressions
    have h₅ := heffects.1 h.effects
    have h₆ := hsections.1 h.sections
    have h₇ := hevents.1 h.events
    exact ⟨⟨h₄.1, h₅.1, h₆.1, h₇.1⟩,
      ⟨h.types, h.converters, h.comparators, h₄.2, h₅.2, h₆.2, h₇.2, h.contextValues⟩⟩
  · rintro ⟨hcompiles, hcomplete⟩
    exact ⟨hcomplete.types, hcomplete.converters, hcomplete.comparators,
      hexpressions.2 ⟨hcompiles.expressions, hcomplete.expressions⟩,
      heffects.2 ⟨hcompiles.effects, hcomplete.effects⟩,
      hsections.2 ⟨hcompiles.sections, hcomplete.sections⟩,
      hevents.2 ⟨hcompiles.events, hcomplete.events⟩, hcomplete.contextValues, htags⟩

/-- Whatever the limits are: no diagnostic comes back from
a registration that was accepted exactly if everything in
it was published, each element with all of its patterns. -/
theorem diagnostics_eq_nil_iff
    [Regex.Dialect]
    (config : Config) (h : History H) {r : Registration H}
    {ds : List Diagnostic} {c' : Catalog H}
    (hr : (after config h).register r = .ok (ds, c')) :
    ds = [] ↔ r.PublishedInFull (after config h) c' := by
  have hs := sound_types_after config h
  rw [(publishes_of_register hr).inFull_iff]
  generalize after config h = c at *
  unfold register at hr
  split at hr
  · cases hr
  · rename_i b queue hstage
    have hreports := (stage_reports hstage).trans (publish_reports queue c b hs)
    rw [← stage_ok hstage]
    cases hr
    exact hreports.kept_eq_nil_iff

section Losing

/-- At most one error comes back from a registration. -/
def terse : Config := ⟨true, ⟨1, true⟩⟩

def idle : Blueprint plainHost (Effect plainHost) where
  bare := { describe := fun _ => "idle", execute := fun v => v.toStore }
  init := fun _ _ => .ok { describe := fun _ => "idle", execute := fun v => v.toStore }

/-- A type, a converter that is there already, and an effect without patterns. -/
def losing : Registration plainHost :=
  .filled "two"
    [.addType (TypeDeclaration.plain "d" "d"), passing "a" "c",
     .addEffect ⟨"idle", idle⟩ [] none]

/-- Two things are lost, and one of the reports comes back. -/
theorem diagnostics_eq_nil_iff_losing :
    ∃ ds c',
      (after terse declaredAlong).register losing = .ok (ds, c') ∧
        ds.length = 1 ∧ ¬losing.PublishedInFull (after terse declaredAlong) c' := by
  have hone : ((after terse declaredAlong).register losing).toOption.map
      (fun result => result.1.length) = some 1 := by
    decide +kernel
  cases hr : (after terse declaredAlong).register losing with
  | error e =>
      rw [hr] at hone
      cases hone
  | ok result =>
      obtain ⟨ds, c'⟩ := result
      rw [hr] at hone
      have hlength : ds.length = 1 := Option.some.inj hone
      refine ⟨ds, c', rfl, hlength, ?_⟩
      rw [← diagnostics_eq_nil_iff terse declaredAlong hr]
      rintro rfl
      cases hlength

end Losing

end Catalog
end TriggerScript
