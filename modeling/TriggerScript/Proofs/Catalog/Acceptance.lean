import Mathlib.Data.List.Basic
import TriggerScript.Catalog.Basic
import TriggerScript.Proofs.TypeSystem.Soundness

/-!
# What is published of a registration

Which declarations of a registration are published, and how, said for each declaration on
its own and without the diagnostics of those that are left out. An accepted registration
puts what is published of it behind what was published before, and sorts.
-/

namespace TriggerScript
namespace Catalog

open Script Report Typing Conversion Comparison

variable {H : Host} {α β γ : Type}

theorem filterMap_cons_toList
    (f : β → Option γ) (b : β) (bs : List β) :
    (b :: bs).filterMap f = (f b).toList ++ bs.filterMap f := by
  rw [List.filterMap_eq_flatMap_toList, List.flatMap_cons,
    ← List.filterMap_eq_flatMap_toList]

section Compilation

variable [Regex.Dialect]

/-- Such of the patterns as can be compiled. -/
def compiledPatterns
    (sources : List String) : List CompiledPattern :=
  sources.filterMap fun source =>
    (Pattern.compile source).toOption.map (CompiledPattern.mk source)

/-- The rank of a pattern; one that has none counts as a text. -/
def CompiledPattern.rank
    (p : CompiledPattern) : Nat :=
  p.tree.rank?.getD Pattern.textRank

/-- The priority that follows from patterns: the lowest of their ranks. -/
def inferredPriority
    (patterns : List CompiledPattern) : Nat :=
  (patterns.map CompiledPattern.rank).foldl min Pattern.textRank

/-- A declared element with its compiled patterns, if there are any. -/
def PendingPhrase.compiled?
    (addon : String) (p : PendingPhrase H α) : Option (Phrase H α) :=
  if compiledPatterns p.patterns = [] then
    none
  else
    some
      { element := p.element
        patterns := compiledPatterns p.patterns
        priority := p.priority.getD (inferredPriority (compiledPatterns p.patterns))
        addon := addon }

theorem compiledPatterns_cons_of_error
    {source : String} {d : Diagnostic}
    (h : Pattern.compile source = .error d)
    (sources : List String) :
    compiledPatterns (source :: sources) = compiledPatterns sources := by
  simp [compiledPatterns, h, Except.toOption]

theorem compiledPatterns_cons_of_ok
    {source : String} {tree : Pattern.Tree}
    (h : Pattern.compile source = .ok tree)
    (sources : List String) :
    compiledPatterns (source :: sources) =
      ⟨source, tree⟩ :: compiledPatterns sources := by
  simp [compiledPatterns, h, Except.toOption]

theorem mem_compiledPatterns_iff
    {p : CompiledPattern} {sources : List String} :
    p ∈ compiledPatterns sources ↔
      p.source ∈ sources ∧ Pattern.compile p.source = .ok p.tree := by
  rw [compiledPatterns, List.mem_filterMap]
  constructor
  · rintro ⟨source, hsource, hp⟩
    cases hcompile : Pattern.compile source with
    | error d =>
        simp [hcompile, Except.toOption] at hp
    | ok tree =>
        rw [hcompile] at hp
        cases hp
        exact ⟨hsource, hcompile⟩
  · rintro ⟨hsource, hcompile⟩
    refine ⟨p.source, hsource, ?_⟩
    rw [hcompile]
    rfl

/-- The patterns that are compiled, and their ranks if these are needed. -/
theorem compilePatterns_ok
    {element : String} {needsRank : Bool} {sources : List String} {queue queue' : Queue}
    {compiled : List (CompiledPattern × Nat)}
    (h : compilePatterns element needsRank sources queue = .ok (compiled, queue')) :
    compiled.map Prod.fst = compiledPatterns sources ∧
      (needsRank = true →
        compiled.map Prod.snd =
          (compiledPatterns sources).map CompiledPattern.rank) := by
  induction sources generalizing compiled queue with
  | nil =>
      cases h
      exact ⟨rfl, fun _ => rfl⟩
  | cons source sources ih =>
      rw [compilePatterns] at h
      cases hcompile : Pattern.compile source with
      | error d =>
          rw [hcompile] at h
          rw [compiledPatterns_cons_of_error hcompile]
          exact ih h
      | ok tree =>
          rw [hcompile] at h
          rw [compiledPatterns_cons_of_ok hcompile]
          dsimp only at h
          split at h
          · cases h
          · rename_i rank hrank
            split at h
            · cases h
            · rename_i others queue'' hothers
              cases h
              obtain ⟨hpatterns, hranks⟩ := ih hothers
              refine ⟨congrArg (List.cons _) hpatterns, ?_⟩
              rintro rfl
              have hrank' : tree.rank? = some rank := hrank
              rw [List.map_cons, List.map_cons, hranks rfl, CompiledPattern.rank, hrank']
              rfl

theorem stagePhrase_ok
    {addon : String} {p : PendingPhrase H α} {queue queue' : Queue}
    {staged : Option (Phrase H α)}
    (h : stagePhrase addon p queue = .ok (staged, queue')) :
    staged = p.compiled? addon := by
  rw [stagePhrase] at h
  split at h
  · cases h
  · rename_i queue'' hcompile
    cases h
    have hpatterns := (compilePatterns_ok hcompile).1
    simp [PendingPhrase.compiled?, ← hpatterns]
  · rename_i compiled queue'' hne hcompile
    cases h
    obtain ⟨hpatterns, hranks⟩ := compilePatterns_ok hcompile
    have hnonempty : compiledPatterns p.patterns ≠ [] := by
      rw [← hpatterns]
      simpa using hne
    rw [PendingPhrase.compiled?, if_neg hnonempty, ← hpatterns]
    cases hpriority : p.priority with
    | some n =>
        rfl
    | none =>
        rw [inferredPriority, hpatterns, ← hranks (by rw [hpriority]; rfl)]

theorem stageAll_ok
    {addon : String} {phrase : β → PendingPhrase H α} {finish : β → Phrase H α → γ}
    {declared : List β} {queue queue' : Queue} {staged : List γ}
    (h : stageAll addon phrase finish declared queue = .ok (staged, queue')) :
    staged = declared.filterMap fun b =>
      ((phrase b).compiled? addon).map (finish b) := by
  induction declared generalizing staged queue with
  | nil =>
      cases h
      rfl
  | cons b declared ih =>
      rw [stageAll] at h
      split at h
      · cases h
      · rename_i first queue₁ hfirst
        split at h
        · cases h
        · rename_i others queue₂ hothers
          cases h
          rw [ih hothers, stagePhrase_ok hfirst, filterMap_cons_toList]

end Compilation

section Checks

/-- The type names in the slots of a pattern. -/
def CompiledPattern.words
    (p : CompiledPattern) : List String :=
  p.tree.slots.flatMap Pattern.Slot.types

/-- Whether the slots of a pattern name known types only. -/
def CompiledPattern.isKnown
    (types : Typing.Registry) (p : CompiledPattern) : Bool :=
  p.words.all fun word => (types.sense? word).isSome

/-- An element with such of its patterns whose
slots name known types, if there are any. -/
def Phrase.known?
    (types : Typing.Registry) (p : Phrase H α) : Option (Phrase H α) :=
  if p.patterns.filter (CompiledPattern.isKnown types) = [] then
    none
  else
    some { p with patterns := p.patterns.filter (CompiledPattern.isKnown types) }

theorem unknownSlotType?_eq_none_iff
    {types : Typing.Registry} {p : CompiledPattern} :
    unknownSlotType? types p.tree = none ↔ p.isKnown types = true := by
  rw [unknownSlotType?, List.find?_eq_none, CompiledPattern.isKnown, List.all_eq_true]
  simp only [Option.isNone_iff_eq_none, Option.isSome_iff_ne_none]
  rfl

theorem checkPatterns_fst
    (types : Typing.Registry) (element : String) (patterns : List CompiledPattern)
    (queue : Queue) :
    (checkPatterns types element patterns queue).1 =
      patterns.filter (CompiledPattern.isKnown types) := by
  induction patterns generalizing queue with
  | nil =>
      rfl
  | cons p patterns ih =>
      rw [checkPatterns]
      cases hunknown : unknownSlotType? types p.tree with
      | some name =>
          have hp : ¬p.isKnown types = true := by
            rw [← unknownSlotType?_eq_none_iff, hunknown]
            simp
          rw [List.filter_cons_of_neg hp]
          exact ih _
      | none =>
          rw [List.filter_cons_of_pos (unknownSlotType?_eq_none_iff.1 hunknown)]
          exact congrArg (List.cons p) (ih queue)

theorem checkPhrase_fst
    (types : Typing.Registry) (p : Phrase H α) (queue : Queue) :
    (checkPhrase types p queue).1 = p.known? types := by
  have hpatterns := checkPatterns_fst types p.element.name p.patterns queue
  rw [checkPhrase]
  split
  · rename_i queue' hcheck
    rw [hcheck] at hpatterns
    rw [Phrase.known?, if_pos hpatterns.symm]
  · rename_i patterns queue' hne hcheck
    rw [hcheck] at hpatterns
    have hnonempty : p.patterns.filter (CompiledPattern.isKnown types) ≠ [] := by
      rw [← hpatterns]
      simpa using hne
    rw [Phrase.known?, if_neg hnonempty, ← hpatterns]

theorem checkPhrases_fst
    (types : Typing.Registry) (phrases : List (Phrase H α)) (queue : Queue) :
    (checkPhrases types phrases queue).1 = phrases.filterMap (Phrase.known? types) := by
  induction phrases generalizing queue with
  | nil =>
      rfl
  | cons p phrases ih =>
      rw [filterMap_cons_toList, ← checkPhrase_fst types p queue,
        ← ih (checkPhrase types p queue).2]
      rfl

/-- A compiled expression, with the name of its type, whose slots and type are known. -/
def knownExpression?
    (types : Typing.Registry) (e : Phrase H (Expression H) × String × Bool) :
    Option (ExpressionEntry H) :=
  (types.idOf? e.2.1).bind fun id => (e.1.known? types).map fun p => ⟨p, id, e.2.2⟩

theorem checkExpressions_fst
    (types : Typing.Registry)
    (expressions : List (Phrase H (Expression H) × String × Bool))
    (queue : Queue) :
    (checkExpressions types expressions queue).1 =
      expressions.filterMap (knownExpression? types) := by
  induction expressions generalizing queue with
  | nil =>
      rfl
  | cons e expressions ih =>
      obtain ⟨p, returnType, isSingle⟩ := e
      rw [filterMap_cons_toList, checkExpressions, knownExpression?]
      cases htype : types.idOf? returnType with
      | none =>
          exact ih _
      | some id =>
          rw [Option.bind_some, ← checkPhrase_fst types p queue,
            ← ih (checkPhrase types p queue).2]

/-- A compiled event whose slots are known. -/
def EventEntry.known?
    (types : Typing.Registry) (e : EventEntry H) : Option (EventEntry H) :=
  (e.phrase.known? types).map fun p => { e with phrase := p }

theorem checkEvents_fst
    (types : Typing.Registry) (events : List (EventEntry H)) (queue : Queue) :
    (checkEvents types events queue).1 = events.filterMap (EventEntry.known? types) := by
  induction events generalizing queue with
  | nil =>
      rfl
  | cons e events ih =>
      rw [filterMap_cons_toList, EventEntry.known?,
        ← checkPhrase_fst types e.phrase queue,
        ← ih (checkPhrase types e.phrase queue).2]
      rfl

end Checks

/-- What is published of a declared element: it with such of its patterns that can be
compiled and name known types, if there are any. -/
def PendingPhrase.accepted?
    [Regex.Dialect]
    (types : Typing.Registry) (addon : String) (p : PendingPhrase H α) :
    Option (Phrase H α) :=
  (p.compiled? addon).bind (Phrase.known? types)

/-- What is published of a declared expression; its type must be known, too. -/
def PendingExpression.accepted?
    [Regex.Dialect]
    (types : Typing.Registry) (addon : String) (e : PendingExpression H) :
    Option (ExpressionEntry H) :=
  (e.phrase.compiled? addon).bind fun p =>
    knownExpression? types (p, e.returnType, e.isSingle)

def PendingEvent.accepted?
    [Regex.Dialect]
    (types : Typing.Registry) (addon : String) (e : PendingEvent H) :
    Option (EventEntry H) :=
  (e.phrase.compiled? addon).bind fun p => EventEntry.known? types ⟨p, e.contexts⟩

/-- An element is published with such of its patterns as can be
compiled and name known types, if there are any; its priority follows
from all that can be compiled unless it has one of its own. -/
theorem PendingPhrase.accepted?_eq
    [Regex.Dialect]
    (types : Typing.Registry) (addon : String) (p : PendingPhrase H α) :
    p.accepted? types addon =
      if (compiledPatterns p.patterns).filter (CompiledPattern.isKnown types) = [] then
        none
      else
        some
          { element := p.element
            patterns := (compiledPatterns p.patterns).filter
              (CompiledPattern.isKnown types)
            priority := p.priority.getD (inferredPriority (compiledPatterns p.patterns))
            addon := addon } := by
  rw [accepted?, compiled?]
  by_cases h : compiledPatterns p.patterns = []
  · rw [if_pos h, h, List.filter_nil, if_pos rfl]
    rfl
  · rw [if_neg h]
    rfl

theorem PendingExpression.accepted?_eq
    [Regex.Dialect]
    (types : Typing.Registry) (addon : String) (e : PendingExpression H) :
    e.accepted? types addon =
      (types.idOf? e.returnType).bind fun id =>
        (e.phrase.accepted? types addon).map fun p => ⟨p, id, e.isSingle⟩ := by
  unfold accepted? PendingPhrase.accepted? knownExpression?
  dsimp only
  cases types.idOf? e.returnType with
  | none =>
      exact Option.bind_fun_none _
  | some id =>
      exact Option.map_bind.symm

theorem PendingEvent.accepted?_eq
    [Regex.Dialect]
    (types : Typing.Registry) (addon : String) (e : PendingEvent H) :
    e.accepted? types addon =
      (e.phrase.accepted? types addon).map fun p => ⟨p, e.contexts⟩ := by
  rw [accepted?, PendingPhrase.accepted?, Option.map_bind]
  rfl

/-- A kind of entries that are kept in match order. -/
inductive Category where
  | expressions
  | effects
  | sections
  | events
  | tags

def Category.Entry
    (H : Host) : Category → Type
  | .expressions => ExpressionEntry H
  | .effects => Phrase H (Effect H)
  | .sections => Phrase H (Section H)
  | .events => EventEntry H
  | .tags => TagEntry

instance : (k : Category) → Ranked (k.Entry H)
  | .expressions => inferInstanceAs (Ranked (ExpressionEntry H))
  | .effects => inferInstanceAs (Ranked (Phrase H (Effect H)))
  | .sections => inferInstanceAs (Ranked (Phrase H (Section H)))
  | .events => inferInstanceAs (Ranked (EventEntry H))
  | .tags => inferInstanceAs (Ranked TagEntry)

/-- The entries of one kind, in the order in which they are tried. -/
def published
    (c : Catalog H) : (k : Category) → List (k.Entry H)
  | .expressions => c.expressions
  | .effects => c.effects
  | .sections => c.sections
  | .events => c.events
  | .tags => c.tags

namespace Registration

/-- What is published of a registration once its
types are there, in the order of declaration. -/
def accepted
    [Regex.Dialect]
    (types : Typing.Registry) (r : Registration H) : (k : Category) → List (k.Entry H)
  | .expressions => r.expressions.filterMap (PendingExpression.accepted? types r.addon)
  | .effects => r.effects.filterMap (PendingPhrase.accepted? types r.addon)
  | .sections => r.sections.filterMap (PendingPhrase.accepted? types r.addon)
  | .events => r.events.filterMap (PendingEvent.accepted? types r.addon)
  | .tags => r.tags.map fun t => ⟨t.name, t.blueprint, t.priority, r.addon⟩

/-- A registration with its patterns compiled. -/
def batch
    [Regex.Dialect]
    (r : Registration H) : Batch H where
  addon := r.addon
  types := r.types
  converters := r.converters
  comparators := r.comparators
  expressions := r.expressions.filterMap fun e =>
    (e.phrase.compiled? r.addon).map fun p => (p, e.returnType, e.isSingle)
  effects := r.effects.filterMap (PendingPhrase.compiled? r.addon)
  sections := r.sections.filterMap (PendingPhrase.compiled? r.addon)
  events := r.events.filterMap fun e =>
    (e.phrase.compiled? r.addon).map fun p => ⟨p, e.contexts⟩
  contextValues := r.contextValues
  tags := r.tags.map fun t => ⟨t.name, t.blueprint, t.priority, r.addon⟩

end Registration

/-- The calls on the type system that follow each registration. -/
def Config.chaining
    (config : Config) : List TypeSystem.Operation :=
  if config.deriveChains then [.deriveChains] else []

namespace Batch

/-- The calls on the type system by which types,
converters and comparators are published. -/
def operations
    (b : Batch H) : List TypeSystem.Operation :=
  b.types.map .registerType ++ b.converters.map .registerConverter ++
    b.comparators.map .registerComparator

end Batch

section Publication

/-- Declarations are published by calls on the type
system if each of them is published by one. -/
theorem fst_eq_performAll {δ : Type}
    {publish : TypeSystem → Queue → List δ → TypeSystem × Queue}
    {op : δ → TypeSystem.Operation}
    (hnil : ∀ s queue, publish s queue [] = (s, queue))
    (hcons : ∀ s queue d ds, ∃ queue',
      publish s queue (d :: ds) = publish (s.perform (op d)) queue' ds)
    (s : TypeSystem) (queue : Queue) (ds : List δ) :
    (publish s queue ds).1 = s.performAll (ds.map op) := by
  induction ds generalizing s queue with
  | nil =>
      rw [hnil]
      rfl
  | cons d ds ih =>
      obtain ⟨queue', hpublish⟩ := hcons s queue d ds
      rw [hpublish, ih]
      rfl

theorem publishTypes_fst
    (s : TypeSystem) (queue : Queue) (ds : List TypeDeclaration) :
    (publishTypes s queue ds).1 = s.performAll (ds.map .registerType) := by
  refine fst_eq_performAll (fun _ _ => rfl) ?_ s queue ds
  intro s queue d ds
  rw [publishTypes, TypeSystem.perform]
  cases s.registerType d with
  | error refusal =>
      exact ⟨_, rfl⟩
  | ok r =>
      exact ⟨_, rfl⟩

theorem publishConverters_fst
    (s : TypeSystem) (queue : Queue) (ds : List ConverterDeclaration) :
    (publishConverters s queue ds).1 = s.performAll (ds.map .registerConverter) := by
  refine fst_eq_performAll (fun _ _ => rfl) ?_ s queue ds
  intro s queue d ds
  rw [publishConverters, TypeSystem.perform]
  cases s.registerConverter d with
  | error refusal =>
      exact ⟨_, rfl⟩
  | ok s' =>
      exact ⟨_, rfl⟩

theorem publishComparators_fst
    (s : TypeSystem) (queue : Queue) (ds : List ComparatorDeclaration) :
    (publishComparators s queue ds).1 = s.performAll (ds.map .registerComparator) := by
  refine fst_eq_performAll (fun _ _ => rfl) ?_ s queue ds
  intro s queue d ds
  rw [publishComparators, TypeSystem.perform]
  cases s.registerComparator d with
  | error refusal =>
      exact ⟨_, rfl⟩
  | ok s' =>
      exact ⟨_, rfl⟩

/-- The context values once one more is published,
unless its type is unknown or it is there. -/
def addContextValue
    (types : Typing.Registry) (values : ContextValues H) (v : PendingContextValue H) :
    ContextValues H :=
  match (resolveContextValue types v).bind values.add with
  | .ok values => values
  | .error _ => values

theorem publishContextValues_fst
    (types : Typing.Registry) (values : ContextValues H) (queue : Queue)
    (vs : List (PendingContextValue H)) :
    (publishContextValues types values queue vs).1 =
      vs.foldl (addContextValue types) values := by
  induction vs generalizing values queue with
  | nil =>
      rfl
  | cons v vs ih =>
      rw [publishContextValues, List.foldl_cons, addContextValue]
      cases (resolveContextValue types v).bind values.add with
      | error d =>
          exact ih values _
      | ok values' =>
          exact ih values' queue

theorem exists_of_bind_ok {ε : Type} {x : Except ε α} {f : α → Except ε β} {b : β}
    (h : (x >>= f) = .ok b) :
    ∃ a, x = .ok a ∧ f a = .ok b := by
  cases x with
  | error e =>
      cases h
  | ok a =>
      exact ⟨a, rfl, h⟩

theorem stage_ok
    [Regex.Dialect]
    {r : Registration H} {queue queue' : Queue} {b : Batch H}
    (h : r.stage queue = .ok (b, queue')) :
    b = r.batch := by
  unfold Registration.stage at h
  obtain ⟨⟨expressions, queue₁⟩, hexpressions, h⟩ := exists_of_bind_ok h
  obtain ⟨⟨effects, queue₂⟩, heffects, h⟩ := exists_of_bind_ok h
  obtain ⟨⟨sections, queue₃⟩, hsections, h⟩ := exists_of_bind_ok h
  obtain ⟨⟨events, queue₄⟩, hevents, h⟩ := exists_of_bind_ok h
  cases h
  rw [stageAll_ok hexpressions, stageAll_ok heffects, stageAll_ok hsections,
    stageAll_ok hevents]
  simp [Registration.batch]

theorem filterMap_batch_expressions
    [Regex.Dialect]
    (types : Typing.Registry) (r : Registration H) :
    r.batch.expressions.filterMap (knownExpression? types) =
      r.accepted types .expressions := by
  refine List.filterMap_filterMap.trans (List.filterMap_congr ?_)
  intro e _
  rw [Option.bind_map]
  rfl

theorem filterMap_batch_events
    [Regex.Dialect]
    (types : Typing.Registry) (r : Registration H) :
    r.batch.events.filterMap (EventEntry.known? types) = r.accepted types .events := by
  refine List.filterMap_filterMap.trans (List.filterMap_congr ?_)
  intro e _
  rw [Option.bind_map]
  rfl

/-- What an accepted registration leaves behind. -/
structure Publishes
    [Regex.Dialect]
    (c : Catalog H) (r : Registration H) (c' : Catalog H) : Prop where
  config : c'.config = c.config
  types : c'.types = c.types.performAll (r.batch.operations ++ c.config.chaining)
  published : ∀ k,
    c'.published k = sortByRank (c.published k ++ r.accepted c'.types.types k)
  contextValues :
    c'.contextValues =
      r.contextValues.foldl (addContextValue c'.types.types) c.contextValues

theorem performAll_chaining
    (config : Config) (s : TypeSystem) :
    s.performAll config.chaining =
      if config.deriveChains then s.deriveChains.2 else s := by
  unfold Config.chaining
  split <;> rfl

/-- Chains of converters do not change the types. -/
theorem types_performAll_chaining
    (config : Config) (s : TypeSystem) :
    (s.performAll config.chaining).types = s.types := by
  rw [performAll_chaining]
  split
  · exact (TypeSystem.deriveChains_keeps s).1
  · rfl

theorem publish_fst
    (c : Catalog H) (b : Batch H) (queue : Queue) :
    let system := c.types.performAll b.operations
    (c.publish b queue).1 =
      { config := c.config
        types := system.performAll c.config.chaining
        expressions :=
          sortByRank (c.expressions ++
            b.expressions.filterMap (knownExpression? system.types))
        effects := sortByRank
          (c.effects ++ b.effects.filterMap (Phrase.known? system.types))
        sections := sortByRank
          (c.sections ++ b.sections.filterMap (Phrase.known? system.types))
        events := sortByRank
          (c.events ++ b.events.filterMap (EventEntry.known? system.types))
        contextValues :=
          b.contextValues.foldl (addContextValue system.types) c.contextValues
        tags := sortByRank (c.tags ++ b.tags)
        addons :=
          recordAddon b.addon
            ((b.events.filterMap (EventEntry.known? system.types)).map fun e =>
              e.phrase.element.name)
            c.addons } := by
  simp only [publish, Batch.operations, TypeSystem.performAll_append, publishTypes_fst,
    publishConverters_fst, publishComparators_fst,
    checkExpressions_fst, checkPhrases_fst, checkEvents_fst, publishContextValues_fst,
    performAll_chaining]

/-- Everything that an accepted registration does to a catalog. -/
theorem publishes_of_register
    [Regex.Dialect]
    {c c' : Catalog H} {r : Registration H} {ds : List Diagnostic}
    (h : c.register r = .ok (ds, c')) :
    Publishes c r c' := by
  unfold register at h
  split at h
  · cases h
  · rename_i b queue hstage
    have hc' : c' = (c.publish b queue).1 := by
      cases h
      rfl
    rw [hc', stage_ok hstage, publish_fst]
    constructor
    · rfl
    · exact (TypeSystem.performAll_append c.types _ _).symm
    · intro k
      rw [types_performAll_chaining]
      cases k with
      | expressions =>
          exact congrArg (fun new => sortByRank (c.expressions ++ new))
            (filterMap_batch_expressions _ r)
      | effects =>
          exact congrArg (fun new => sortByRank (c.effects ++ new))
            List.filterMap_filterMap
      | sections =>
          exact congrArg (fun new => sortByRank (c.sections ++ new))
            List.filterMap_filterMap
      | events =>
          exact congrArg (fun new => sortByRank (c.events ++ new))
            (filterMap_batch_events _ r)
      | tags =>
          rfl
    · rw [types_performAll_chaining]
      rfl

end Publication

end Catalog
end TriggerScript
