import TriggerScript.Proofs.Catalog.History

/-!
# The integrity of catalogs

Everything that a catalog refers to is there: patterns are read as their trees, slots
name types, and types of values, ends of converters and comparators and supertypes are
registered. Registrations only add to a catalog, and never give a word another meaning,
so what was checked when an entry was published holds ever after.
-/

namespace TriggerScript
namespace Catalog

open Script Report Typing

variable {H : Host} {α : Type} {types types' : Typing.Registry}

/-- Whether patterns are read as their trees, and their slots name registered types. -/
structure PatternsSound
    [Regex.Dialect]
    (types : Typing.Registry) (patterns : List CompiledPattern) : Prop where
  ne_nil : patterns ≠ []
  compiled : ∀ p ∈ patterns, Pattern.compile p.source = .ok p.tree
  words :
    ∀ p ∈ patterns, ∀ word ∈ p.words,
      ∃ sense, types.sense? word = some sense ∧ types.Knows sense.typeId

namespace Category

/-- The patterns of an entry; tags have none. -/
def patterns : (k : Category) → k.Entry H → List CompiledPattern
  | .expressions, e => (ExpressionEntry.phrase e).patterns
  | .effects, p => Phrase.patterns p
  | .sections, p => Phrase.patterns p
  | .events, e => (EventEntry.phrase e).patterns
  | .tags, _ => []

/-- The type names in the slots of an entry. -/
def words
    (k : Category) (e : k.Entry H) : List String :=
  (k.patterns e).flatMap CompiledPattern.words

/-- Whether an entry has sound patterns, and
values of a registered type; tags have neither. -/
def EntrySound
    [Regex.Dialect]
    (types : Typing.Registry) : (k : Category) → k.Entry H → Prop
  | .expressions, e =>
      PatternsSound types (patterns .expressions e) ∧
        types.Knows (ExpressionEntry.returnType e)
  | .tags, _ => True
  | k, e => PatternsSound types (k.patterns e)

end Category

/-- Whether everything that a catalog refers to is there. -/
structure Sound
    [Regex.Dialect]
    (c : Catalog H) : Prop where
  entries : ∀ k, ∀ e ∈ c.published k, k.EntrySound c.types.types e
  contextValues : ∀ v ∈ c.contextValues.values, c.types.types.Knows v.returnType
  converters :
    ∀ x ∈ c.types.converters, c.types.types.Knows x.source ∧ c.types.types.Knows x.target
  comparators :
    ∀ x ∈ c.types.comparators, c.types.types.Knows x.first ∧ c.types.types.Knows x.second
  supertypes : ∀ id above, c.types.types.supertype? id = some above →
    c.types.types.Knows above

/-- Whether an entry is declared by a call, with the priority that the call asks for. -/
def Call.Declares : Call H → (k : Category) → k.Entry H → Prop
  | .addExpression element _ _ _ request, .expressions, e =>
      (ExpressionEntry.phrase e).element = element ∧
        AsRequested request (ExpressionEntry.phrase e).priority
  | .addEffect element _ request, .effects, p =>
      Phrase.element p = element ∧ AsRequested request (Phrase.priority p)
  | .addSection element _ request, .sections, p =>
      Phrase.element p = element ∧ AsRequested request (Phrase.priority p)
  | .addEvent element _ _ request, .events, e =>
      (EventEntry.phrase e).element = element ∧
        AsRequested request (EventEntry.phrase e).priority
  | .addTag name blueprint request, .tags, t =>
      TagEntry.name t = name ∧ TagEntry.blueprint t = blueprint ∧
        AsRequested request (TagEntry.priority t)
  | _, _, _ => False

section Entries

theorem PatternsSound.of_keeps
    [Regex.Dialect]
    {patterns : List CompiledPattern}
    (h : PatternsSound types patterns)
    (hkeeps : types.Keeps types') :
    PatternsSound types' patterns := by
  refine ⟨h.ne_nil, h.compiled, ?_⟩
  intro p hp word hword
  obtain ⟨sense, hsense, hknows⟩ := h.words p hp word hword
  exact ⟨sense, hkeeps.words word sense hsense, hknows.of_extends hkeeps.entries⟩

/-- An entry that is sound stays so. -/
theorem Category.EntrySound.of_keeps
    [Regex.Dialect]
    {k : Category} {e : k.Entry H}
    (h : k.EntrySound types e)
    (hkeeps : types.Keeps types') :
    k.EntrySound types' e := by
  cases k with
  | expressions =>
      exact ⟨h.1.of_keeps hkeeps, h.2.of_extends hkeeps.entries⟩
  | effects =>
      exact PatternsSound.of_keeps h hkeeps
  | sections =>
      exact PatternsSound.of_keeps h hkeeps
  | events =>
      exact PatternsSound.of_keeps h hkeeps
  | tags =>
      trivial

/-- The slots of a sound entry name known types. -/
theorem Category.EntrySound.exists_sense
    [Regex.Dialect]
    {k : Category} {e : k.Entry H} {word : String}
    (h : k.EntrySound types e)
    (hword : word ∈ k.words e) :
    ∃ sense, types.sense? word = some sense ∧ types.Knows sense.typeId := by
  obtain ⟨p, hp, hslot⟩ := List.mem_flatMap.1 hword
  cases k with
  | expressions =>
      exact h.1.words p hp word hslot
  | effects =>
      exact PatternsSound.words h p hp word hslot
  | sections =>
      exact PatternsSound.words h p hp word hslot
  | events =>
      exact PatternsSound.words h p hp word hslot
  | tags =>
      cases hp

/-- A priority that follows from patterns is at most that of a text. -/
theorem inferredPriority_le
    (patterns : List CompiledPattern) :
    inferredPriority patterns ≤ Pattern.textRank := by
  refine List.foldlRecOn (motive := fun n => n ≤ Pattern.textRank) _ min
    (Nat.le_refl _) ?_
  intro n hn rank _
  exact Nat.le_trans (Nat.min_le_left n rank) hn

theorem asRequested_getD
    (priority : Option Nat) (patterns : List CompiledPattern) :
    AsRequested (priority.map Int.ofNat)
      (priority.getD (inferredPriority patterns)) := by
  cases priority with
  | none =>
      exact inferredPriority_le patterns
  | some n =>
      rfl

/-- Whether a published element stems from a declared one. -/
structure Stems
    [Regex.Dialect]
    (types : Typing.Registry) (p : PendingPhrase H α) (q : Phrase H α) : Prop where
  element : q.element = p.element
  patterns : PatternsSound types q.patterns
  priority : AsRequested (p.priority.map Int.ofNat) q.priority

theorem stems_of_accepted?
    [Regex.Dialect]
    {p : PendingPhrase H α} {addon : String} {q : Phrase H α}
    (hsound : types.Sound)
    (h : p.accepted? types addon = some q) :
    Stems types p q := by
  rw [PendingPhrase.accepted?_eq] at h
  split at h
  · cases h
  · rename_i hne
    cases h
    refine ⟨rfl, ⟨hne, ?_, ?_⟩, asRequested_getD _ _⟩
    · intro c hc
      exact (mem_compiledPatterns_iff.1 (List.mem_filter.1 hc).1).2
    · intro c hc word hword
      have hsome := List.all_eq_true.1 (List.mem_filter.1 hc).2 word hword
      obtain ⟨sense, hsense⟩ := Option.isSome_iff_exists.1 hsome
      exact ⟨sense, hsense, hsound.knows_iff.2 (hsound.registered word sense hsense)⟩

theorem stems_of_accepted?_expression
    [Regex.Dialect]
    {p : PendingExpression H} {addon : String} {e : ExpressionEntry H}
    (hsound : types.Sound)
    (h : p.accepted? types addon = some e) :
    Stems types p.phrase e.phrase ∧ types.Knows e.returnType := by
  rw [PendingExpression.accepted?_eq] at h
  obtain ⟨id, hid, h⟩ := Option.bind_eq_some_iff.1 h
  obtain ⟨q, hq, rfl⟩ := Option.map_eq_some_iff.1 h
  exact ⟨stems_of_accepted? hsound hq,
    hsound.knows_iff.2 (Registry.registered_of_idOf? hid)⟩

theorem stems_of_accepted?_event
    [Regex.Dialect]
    {p : PendingEvent H} {addon : String} {e : EventEntry H}
    (hsound : types.Sound)
    (h : p.accepted? types addon = some e) :
    Stems types p.phrase e.phrase := by
  rw [PendingEvent.accepted?_eq] at h
  obtain ⟨q, hq, rfl⟩ := Option.map_eq_some_iff.1 h
  exact stems_of_accepted? hsound hq

/-- What is published of a registration is sound,
and declared by the calls that filled it. -/
theorem sound_of_mem_accepted
    [Regex.Dialect]
    {r : Registration H} {calls : List (Call H)} {k : Category} {e : k.Entry H}
    (hsound : types.Sound)
    (hdeclared : r.DeclaredBy calls)
    (h : e ∈ r.accepted types k) :
    k.EntrySound types e ∧ ∃ call ∈ calls, call.Declares k e := by
  cases k with
  | expressions =>
      obtain ⟨p, hp, he⟩ := List.mem_filterMap.1 h
      obtain ⟨hstems, hknows⟩ := stems_of_accepted?_expression hsound he
      exact ⟨⟨hstems.patterns, hknows⟩, _, hdeclared.expressions p hp, hstems.element,
        hstems.priority⟩
  | effects =>
      obtain ⟨p, hp, he⟩ := List.mem_filterMap.1 h
      have hstems := stems_of_accepted? hsound he
      exact ⟨hstems.patterns, _, hdeclared.effects p hp, hstems.element, hstems.priority⟩
  | sections =>
      obtain ⟨p, hp, he⟩ := List.mem_filterMap.1 h
      have hstems := stems_of_accepted? hsound he
      exact ⟨hstems.patterns, _, hdeclared.sections p hp,
        hstems.element, hstems.priority⟩
  | events =>
      obtain ⟨p, hp, he⟩ := List.mem_filterMap.1 h
      have hstems := stems_of_accepted?_event hsound he
      obtain ⟨patterns, contexts, hcall⟩ := hdeclared.events p hp
      exact ⟨hstems.patterns, _, hcall, hstems.element, hstems.priority⟩
  | tags =>
      obtain ⟨t, ht, rfl⟩ := List.mem_map.1 h
      obtain ⟨priority, hcall, hpriority⟩ := hdeclared.tags t ht
      exact ⟨trivial, _, hcall, rfl, rfl, hpriority⟩

/-- Context values that are published have registered types. -/
theorem knows_of_mem_addContextValue
    {values : ContextValues H} {pending : PendingContextValue H}
    (hsound : types.Sound)
    (h : ∀ v ∈ values.values, types.Knows v.returnType) :
    ∀ v ∈ (addContextValue types values pending).values, types.Knows v.returnType := by
  unfold addContextValue resolveContextValue
  cases htype : types.idOf? pending.returnType with
  | none =>
      exact h
  | some id =>
      dsimp only [Except.bind, ContextValues.add]
      split
      · rename_i values' hadd
        split at hadd
        · cases hadd
        · cases hadd
          refine List.forall_mem_append.2 ⟨h, List.forall_mem_singleton.2 ?_⟩
          exact hsound.knows_iff.2 (Registry.registered_of_idOf? htype)
      · exact h

end Entries

section Histories

variable [Regex.Dialect]

def Step.calls : Step H → List (Call H)
  | .register _ calls => calls
  | .ask _ _ => []

/-- All calls by which something was declared in a history. -/
def History.calls
    (h : History H) : List (Call H) :=
  h.flatMap Step.calls

theorem Change.keeps
    {c c' : Catalog H} {step : Step H}
    (h : Change c step c')
    (hsound : c.types.Sound) :
    c'.types.Sound ∧ c.types.types.Keeps c'.types.types := by
  cases h with
  | published publishes accepted =>
      rw [publishes.types]
      exact hsound.performAll _
  | kept ops same accepted =>
      rw [same]
      exact hsound.performAll ops

theorem sound_types_after
    (config : Config) (h : History H) :
    (after config h).types.Sound := by
  refine after_induction (P := fun _ c => c.types.Sound) TypeSystem.sound_initial ?_ h
  intro step earlier c' hchange ih
  exact (hchange.keeps ih).1

/-- Types stay, and known words keep their meaning. -/
theorem keeps_after
    (config : Config) (later h : History H) :
    (after config h).types.types.Keeps (after config (later ++ h)).types.types := by
  induction later with
  | nil =>
      exact Registry.Keeps.refl _
  | cons step later ih =>
      have hsound := sound_types_after config (later ++ h)
      exact ih.trans ((change_perform _ step).keeps hsound).2

/-- Everything that was accepted is sound, and was declared by some call. -/
theorem sound_of_mem_accepted_after
    (config : Config) (h : History H) (k : Category) :
    ∀ e ∈ accepted config h k,
      k.EntrySound (after config h).types.types e ∧
        ∃ call ∈ h.calls, call.Declares k e := by
  refine after_induction (P := fun h c => ∀ e ∈ accepted config h k,
    k.EntrySound c.types.types e ∧ ∃ call ∈ h.calls, call.Declares k e) ?_ ?_ h
  · intro e he
    cases he
  · intro step earlier c' hchange ih e he
    obtain ⟨hsound, hkeeps⟩ := hchange.keeps (sound_types_after config earlier)
    rw [accepted, List.mem_append] at he
    rcases he with he | he
    · -- the names in its slots were known before, and mean the same now
      obtain ⟨hentry, call, hcall, hdeclares⟩ := ih e he
      exact ⟨hentry.of_keeps hkeeps, call, List.mem_append_right _ hcall, hdeclares⟩
    · cases hchange with
      | published publishes haccepted =>
          rw [haccepted] at he
          obtain ⟨hentry, call, hcall, hdeclares⟩ := sound_of_mem_accepted hsound.types
            (Registration.declaredBy_filled _ _) he
          exact ⟨hentry, call, List.mem_append_left _ hcall, hdeclares⟩
      | kept ops same haccepted =>
          rw [haccepted] at he
          cases he

theorem knows_contextValues_after
    (config : Config) (h : History H) :
    ∀ v ∈ (after config h).contextValues.values,
      (after config h).types.types.Knows v.returnType := by
  refine after_induction (P := fun _ c => ∀ v ∈ c.contextValues.values,
    c.types.types.Knows v.returnType) ?_ ?_ h
  · intro v hv
    cases hv
  · intro step earlier c' hchange ih
    obtain ⟨hsound, hkeeps⟩ := hchange.keeps (sound_types_after config earlier)
    have hold : ∀ v ∈ (after config earlier).contextValues.values,
        c'.types.types.Knows v.returnType :=
      fun v hv => (ih v hv).of_extends hkeeps.entries
    cases hchange with
    | published publishes haccepted =>
        rw [publishes.contextValues]
        refine List.foldlRecOn (motive := fun values : ContextValues H =>
          ∀ v ∈ values.values, c'.types.types.Knows v.returnType) _ _ hold ?_
        intro values hvalues pending _
        exact knows_of_mem_addContextValue hsound.types hvalues
    | kept ops same haccepted =>
        rw [same] at hold ⊢
        exact hold

end Histories

theorem sound_after
    [Regex.Dialect]
    (config : Config) (h : History H) :
    (after config h).Sound := by
  have hsound := sound_types_after config h
  constructor
  · intro k e he
    rw [published_after] at he
    have hmem := (perm_sortByRank _).mem_iff.1 he
    exact (sound_of_mem_accepted_after config h k e hmem).1
  · exact knows_contextValues_after config h
  · intro x hx
    obtain ⟨hsource, htarget⟩ := hsound.grounded.converters x hx
    exact ⟨hsound.types.knows_iff.2 hsource, hsound.types.knows_iff.2 htarget⟩
  · intro x hx
    obtain ⟨hfirst, hsecond⟩ := hsound.grounded.comparators x hx
    exact ⟨hsound.types.knows_iff.2 hfirst, hsound.types.knows_iff.2 hsecond⟩
  · intro id above habove
    exact hsound.types.knows_iff.2 (Registry.registered_of_supertype? habove)

/-- Whatever was registered, refused or left out: everything that the catalog refers to
is there; the type names in the slots of entries that are published never stand for
another type or number; and each entry was declared by some call, which left the priority
to the patterns or asked for exactly this one, so that no priority is below zero. -/
theorem integrity_after
    [Regex.Dialect]
    (config : Config) (h : History H) :
    (after config h).Sound ∧
      (∀ later k, ∀ e ∈ (after config h).published k, ∀ word ∈ k.words e,
        ∃ sense, (after config h).types.types.sense? word = some sense ∧
          (after config (later ++ h)).types.types.sense? word = some sense) ∧
      ∀ k, ∀ e ∈ (after config h).published k, ∃ call ∈ h.calls, call.Declares k e := by
  refine ⟨sound_after config h, ?_, ?_⟩
  · intro later k e he word hword
    obtain ⟨sense, hsense, -⟩ :=
      ((sound_after config h).entries k e he).exists_sense hword
    exact ⟨sense, hsense, (keeps_after config later h).words word sense hsense⟩
  · intro k e he
    rw [published_after] at he
    have hmem := (perm_sortByRank _).mem_iff.1 he
    exact (sound_of_mem_accepted_after config h k e hmem).2

end Catalog
end TriggerScript
