import TriggerScript.Proofs.Catalog.Integrity
import TriggerScript.Proofs.Catalog.Refusal
import TriggerScript.Proofs.Pattern.Rank
import TriggerScript.Regex.Acceptance

/-!
# Priorities that follow from patterns

The priority of a declaration that asks for none is settled when its patterns are
compiled: it is the lowest rank among those that can be compiled. Patterns whose slots
name unknown types are left out later, and the priority is not settled anew. So it is the
lowest rank of what is published exactly if nothing that was left out then was ranked
below all that is published.
-/

namespace TriggerScript
namespace Catalog

open Script Report

variable {H : Host} {α β : Type}

/-- Whether a number is the lowest rank of some patterns, all of which have one. -/
structure IsLowestRank
    (n : Nat) (patterns : List CompiledPattern) : Prop where
  attained : ∃ p ∈ patterns, p.tree.rank? = some n
  least : ∀ p ∈ patterns, ∃ m, p.tree.rank? = some m ∧ n ≤ m

section Ranks

variable {n : Nat} {patterns : List CompiledPattern}

theorem CompiledPattern.rank_eq
    {p : CompiledPattern}
    (h : p.tree.rank? = some n) :
    p.rank = n := by
  rw [rank, h, Option.getD_some]

/-- The priority that follows from patterns is the lowest of their ranks. -/
theorem isLowestRank_inferredPriority
    (hne : patterns ≠ [])
    (hranks : ∀ p ∈ patterns, ∃ m, p.tree.rank? = some m) :
    IsLowestRank (inferredPriority patterns) patterns := by
  have hsome : ((patterns.map CompiledPattern.rank).min?).isSome = true :=
    List.isSome_min?_of_ne_nil (by simpa using hne)
  obtain ⟨n, hn⟩ := Option.isSome_iff_exists.1 hsome
  obtain ⟨hmem, hle⟩ := List.min?_eq_some_iff.1 hn
  obtain ⟨p, hp, hrank⟩ := List.mem_map.1 hmem
  obtain ⟨m, hm⟩ := hranks p hp
  have hmn : m = n := by
    rw [← hrank, CompiledPattern.rank_eq hm]
  subst hmn
  have hpriority : inferredPriority patterns = m := by
    rw [inferredPriority, List.foldl_min, hn, Option.getD_some]
    exact Nat.min_eq_right (Pattern.Tree.le_textRank_of_rank? _ hm)
  rw [hpriority]
  refine ⟨⟨p, hp, hm⟩, ?_⟩
  intro q hq
  obtain ⟨o, ho⟩ := hranks q hq
  refine ⟨o, ho, ?_⟩
  rw [← CompiledPattern.rank_eq ho]
  exact hle _ (List.mem_map_of_mem hq)

/-- If patterns are left out, the lowest rank stays what it is exactly if for each of
them there is one left that is not ranked above it. -/
theorem IsLowestRank.filter_iff
    (h : IsLowestRank n patterns)
    (keep : CompiledPattern → Bool) :
    IsLowestRank n (patterns.filter keep) ↔
      ∀ p ∈ patterns, keep p = false → ∃ q ∈ patterns.filter keep, q.rank ≤ p.rank := by
  have hleast : ∀ p ∈ patterns.filter keep, ∃ m, p.tree.rank? = some m ∧ n ≤ m :=
    fun p hp => h.least p (List.mem_of_mem_filter hp)
  constructor
  · rintro ⟨⟨q, hq, hrank⟩, -⟩ p hp -
    obtain ⟨m, hm, hle⟩ := h.least p hp
    refine ⟨q, hq, ?_⟩
    rw [CompiledPattern.rank_eq hrank, CompiledPattern.rank_eq hm]
    exact hle
  · intro hleft
    refine ⟨?_, hleast⟩
    obtain ⟨p, hp, hrank⟩ := h.attained
    cases hkeep : keep p with
    | true =>
        exact ⟨p, List.mem_filter.2 ⟨hp, hkeep⟩, hrank⟩
    | false =>
        obtain ⟨q, hq, hle⟩ := hleft p hp hkeep
        obtain ⟨m, hm, hnm⟩ := hleast q hq
        rw [CompiledPattern.rank_eq hrank, CompiledPattern.rank_eq hm] at hle
        exact ⟨q, hq, Nat.le_antisymm hle hnm ▸ hm⟩

end Ranks

section Declarations

variable [Regex.Dialect]

namespace Category

/-- What is declared of a kind of entries. -/
def Declared
    (H : Host) : Category → Type
  | .expressions => PendingExpression H
  | .effects => PendingPhrase H (Effect H)
  | .sections => PendingPhrase H (Section H)
  | .events => PendingEvent H
  | .tags => PendingTag

/-- The patterns of a declaration; tags have none. -/
def sources : (k : Category) → k.Declared H → List String
  | .expressions, e => (PendingExpression.phrase e).patterns
  | .effects, p => PendingPhrase.patterns p
  | .sections, p => PendingPhrase.patterns p
  | .events, e => (PendingEvent.phrase e).patterns
  | .tags, _ => []

/-- The priority of a declaration, if it does not follow from its patterns. -/
def priority? : (k : Category) → k.Declared H → Option Nat
  | .expressions, e => (PendingExpression.phrase e).priority
  | .effects, p => PendingPhrase.priority p
  | .sections, p => PendingPhrase.priority p
  | .events, e => (PendingEvent.phrase e).priority
  | .tags, t => some (PendingTag.priority t)

/-- What is published of a declaration. -/
def accepted?
    (types : Typing.Registry) (addon : String) :
    (k : Category) → k.Declared H → Option (k.Entry H)
  | .expressions, e => PendingExpression.accepted? types addon e
  | .effects, p => PendingPhrase.accepted? types addon p
  | .sections, p => PendingPhrase.accepted? types addon p
  | .events, e => PendingEvent.accepted? types addon e
  | .tags, t =>
      some ⟨PendingTag.name t, PendingTag.blueprint t, PendingTag.priority t, addon⟩

end Category

/-- What a registration declares of a kind of entries. -/
def Registration.declared
    (r : Registration H) : (k : Category) → List (k.Declared H)
  | .expressions => r.expressions
  | .effects => r.effects
  | .sections => r.sections
  | .events => r.events
  | .tags => r.tags

theorem Registration.accepted_eq_filterMap
    (types : Typing.Registry) (r : Registration H) (k : Category) :
    r.accepted types k = (r.declared k).filterMap (k.accepted? types r.addon) := by
  cases k with
  | tags =>
      exact (congrFun List.filterMap_eq_map r.tags).symm
  | _ =>
      rfl

/-- How the patterns and the priority of an entry
follow from those of its declaration. -/
structure Settled
    (types : Typing.Registry) (sources : List String) (requested : Option Nat)
    (kept : List CompiledPattern) (priority : Nat) : Prop where
  ne_nil : kept ≠ []
  patterns : kept = (compiledPatterns sources).filter (CompiledPattern.isKnown types)
  priority : priority = requested.getD (inferredPriority (compiledPatterns sources))

theorem settled_of_accepted?_phrase
    {types : Typing.Registry} {p : PendingPhrase H α} {addon : String} {q : Phrase H α}
    (h : p.accepted? types addon = some q) :
    Settled types p.patterns p.priority q.patterns q.priority := by
  rw [PendingPhrase.accepted?_eq] at h
  split at h
  · cases h
  · rename_i hne
    cases h
    exact ⟨hne, rfl, rfl⟩

/-- An entry with patterns has such of those declared as can be
compiled and name known types; unless its declaration asks for a
priority, it has the one that follows from all that can be compiled. -/
theorem Category.settled_of_accepted?
    {types : Typing.Registry} {addon : String} {k : Category}
    {d : k.Declared H} {e : k.Entry H}
    (hpriority : k.priority? d = none)
    (haccepted : k.accepted? types addon d = some e) :
    Settled types (k.sources d) none (k.patterns e) (Ranked.rank e) := by
  rw [← hpriority]
  cases k with
  | expressions =>
      obtain ⟨id, -, hphrase⟩ := Option.bind_eq_some_iff.1
        ((PendingExpression.accepted?_eq types addon d).symm.trans haccepted)
      obtain ⟨q, hq, rfl⟩ := Option.map_eq_some_iff.1 hphrase
      exact settled_of_accepted?_phrase hq
  | effects =>
      exact settled_of_accepted?_phrase haccepted
  | sections =>
      exact settled_of_accepted?_phrase haccepted
  | events =>
      obtain ⟨q, hq, rfl⟩ := Option.map_eq_some_iff.1
        ((PendingEvent.accepted?_eq types addon d).symm.trans haccepted)
      exact settled_of_accepted?_phrase hq
  | tags =>
      cases hpriority

theorem not_unrankable_of_register
    {c c' : Catalog H} {r : Registration H} {ds : List Diagnostic}
    (h : c.register r = .ok (ds, c')) :
    ∀ q ∈ r.declaredPatterns, ¬q.Unrankable := by
  intro q hq hunrankable
  obtain ⟨e, he⟩ := (exists_refused_iff c r).2 ⟨q, hq, hunrankable⟩
  rw [attempt, h] at he
  cases he

theorem exists_rank_of_not_unrankable
    {phrase : β → PendingPhrase H α} {declared : List β} {b : β}
    (h : ∀ q ∈ declared.flatMap fun b => (phrase b).declaredPatterns, ¬q.Unrankable)
    (hb : b ∈ declared)
    (hpriority : (phrase b).priority = none) :
    ∀ p ∈ compiledPatterns (phrase b).patterns, ∃ m, p.tree.rank? = some m := by
  intro p hp
  obtain ⟨hsource, hcompile⟩ := mem_compiledPatterns_iff.1 hp
  refine Option.ne_none_iff_exists'.1 ?_
  intro hrank
  obtain ⟨q, hq, hunrankable⟩ := (exists_unrankable_flatMap_iff phrase declared).2
    ⟨b, hb, hpriority, p.source, hsource, p.tree, hcompile, hrank⟩
  exact h q hq hunrankable

/-- In a registration that is accepted every pattern
from which a priority follows has a rank. -/
theorem exists_rank_of_register
    {c c' : Catalog H} {r : Registration H} {ds : List Diagnostic} {k : Category}
    {d : k.Declared H}
    (h : c.register r = .ok (ds, c'))
    (hd : d ∈ r.declared k)
    (hpriority : k.priority? d = none) :
    ∀ p ∈ compiledPatterns (k.sources d), ∃ m, p.tree.rank? = some m := by
  have hranks := not_unrankable_of_register h
  simp only [Registration.declaredPatterns, List.forall_mem_append] at hranks
  obtain ⟨hexpressions, heffects, hsections, hevents⟩ := hranks
  cases k with
  | expressions =>
      exact exists_rank_of_not_unrankable hexpressions hd hpriority
  | effects =>
      exact exists_rank_of_not_unrankable heffects hd hpriority
  | sections =>
      exact exists_rank_of_not_unrankable hsections hd hpriority
  | events =>
      exact exists_rank_of_not_unrankable hevents hd hpriority
  | tags =>
      cases hpriority

end Declarations

section Histories

variable [Regex.Dialect]

/-- Whether an entry is published from a declaration in the course of a history. The
declaration is part of a registration that is accepted, and its patterns are checked
against the types that are there then. -/
inductive PublishedFrom
    (config : Config) :
    History H → (k : Category) → k.Declared H → Typing.Registry → k.Entry H → Prop where
  /-- The entry is published in the last step. -/
  | now
      {earlier : History H} {addon : String} {calls : List (Call H)}
      {ds : List Diagnostic}
      {c' : Catalog H} {k : Category} {d : k.Declared H} {e : k.Entry H}
      (register :
        (after config earlier).register (Registration.filled addon calls) = .ok (ds, c'))
      (declared : d ∈ (Registration.filled addon calls).declared k)
      (accepted :
        k.accepted? c'.types.types (Registration.filled addon calls).addon d = some e) :
      PublishedFrom config (.register addon calls :: earlier) k d c'.types.types e
  /-- The entry was published before. -/
  | before
      {earlier : History H} {k : Category} {d : k.Declared H} {types : Typing.Registry}
      {e : k.Entry H}
      (step : Step H)
      (published : PublishedFrom config earlier k d types e) :
      PublishedFrom config (step :: earlier) k d types e

variable {config : Config} {h : History H} {k : Category}

theorem PublishedFrom.mem_accepted
    {d : k.Declared H} {types : Typing.Registry} {e : k.Entry H}
    (hfrom : PublishedFrom config h k d types e) :
    e ∈ accepted config h k := by
  induction hfrom with
  | now register declared haccepted =>
      refine List.mem_append_right _ ?_
      rw [Step.accepted, register]
      dsimp only
      rw [Registration.accepted_eq_filterMap]
      exact List.mem_filterMap.2 ⟨_, declared, haccepted⟩
  | before step published ih =>
      exact List.mem_append_left _ ih

/-- Every entry was published from some declaration. -/
theorem exists_publishedFrom
    {e : k.Entry H}
    (he : e ∈ accepted config h k) :
    ∃ d types, PublishedFrom config h k d types e := by
  induction h with
  | nil =>
      cases he
  | cons step earlier ih =>
      rcases List.mem_append.1 he with he | he
      · obtain ⟨d, types, hfrom⟩ := ih he
        exact ⟨d, types, .before step hfrom⟩
      · cases step with
        | register addon calls =>
            rw [Step.accepted] at he
            split at he
            · rename_i r hregister
              rw [Registration.accepted_eq_filterMap] at he
              obtain ⟨d, hd, haccepted⟩ := List.mem_filterMap.1 he
              exact ⟨d, _, .now hregister hd haccepted⟩
            · cases he
        | ask a b =>
            cases he

theorem PublishedFrom.settled
    {d : k.Declared H} {types : Typing.Registry} {e : k.Entry H}
    (hfrom : PublishedFrom config h k d types e)
    (hpriority : k.priority? d = none) :
    Settled types (k.sources d) none (k.patterns e) (Ranked.rank e) ∧
      ∀ p ∈ compiledPatterns (k.sources d), ∃ m, p.tree.rank? = some m := by
  induction hfrom with
  | now register declared haccepted =>
      exact ⟨Category.settled_of_accepted? hpriority haccepted,
        exists_rank_of_register register declared hpriority⟩
  | before step published ih =>
      exact ih hpriority

end Histories

/-- Every entry is published from a declaration in some registration. If this leaves the
priority to the patterns, the entry has such of its patterns as can be compiled and name
known types, and its priority is the lowest rank of all that can be compiled. So patterns
that cannot be compiled make no difference, while those that were left out for an unknown
type do: the priority is the lowest rank of the patterns of the entry exactly if none of
those was ranked below all of them. -/
theorem priority_isLowestRank_iff
    [Regex.Dialect]
    (config : Config) (h : History H) (k : Category) :
    (∀ e ∈ (after config h).published k, ∃ d types, PublishedFrom config h k d types e) ∧
      ∀ d types e, PublishedFrom config h k d types e → k.priority? d = none →
        e ∈ (after config h).published k ∧
          k.patterns e = (compiledPatterns (k.sources d)).filter
            (CompiledPattern.isKnown types) ∧
          IsLowestRank (Ranked.rank e) (compiledPatterns (k.sources d)) ∧
          (IsLowestRank (Ranked.rank e) (k.patterns e) ↔
            ∀ p ∈ compiledPatterns (k.sources d), p.isKnown types = false →
              ∃ q ∈ k.patterns e, q.rank ≤ p.rank) := by
  have hmem : ∀ e, e ∈ (after config h).published k ↔ e ∈ accepted config h k := by
    intro e
    rw [published_after]
    exact (perm_sortByRank _).mem_iff
  constructor
  · intro e he
    exact exists_publishedFrom ((hmem e).1 he)
  · intro d types e hfrom hpriority
    obtain ⟨hsettled, hranks⟩ := hfrom.settled hpriority
    have hcompiled : compiledPatterns (k.sources d) ≠ [] := by
      intro hnil
      refine hsettled.ne_nil ?_
      rw [hsettled.patterns, hnil, List.filter_nil]
    have hlowest : IsLowestRank (Ranked.rank e) (compiledPatterns (k.sources d)) := by
      rw [hsettled.priority]
      exact isLowestRank_inferredPriority hcompiled hranks
    refine ⟨(hmem e).2 hfrom.mem_accepted, hsettled.patterns, hlowest, ?_⟩
    rw [hsettled.patterns]
    exact hlowest.filter_iff _

section Dropped

/-- An effect that is declared with a slot for an unknown type,
with a text, and with a pattern that cannot be compiled. -/
def waiting : PendingPhrase ⟨Unit, Unit⟩ (Effect ⟨Unit, Unit⟩) :=
  let effect : Effect ⟨Unit, Unit⟩ :=
    { describe := fun _ => "", execute := fun v => v.toStore }
  ⟨⟨"wait", effect, fun _ _ => .ok effect⟩, ["%a%", "wait", "("], none⟩

/-- An addon declares nothing else. -/
def waits : History ⟨Unit, Unit⟩ :=
  [.register "one" [.addEffect waiting.element waiting.patterns none]]

def slotPattern : CompiledPattern :=
  ⟨"%a%", .slot ⟨["a"], .both, false, false⟩⟩

def textPattern : CompiledPattern :=
  ⟨"wait", .text "wait"⟩

/-- What is published of the effect. -/
def waitingEntry : Phrase ⟨Unit, Unit⟩ (Effect ⟨Unit, Unit⟩) :=
  ⟨waiting.element, [textPattern], Pattern.slotRank, "one"⟩

set_option maxRecDepth 4000 in
theorem compiledPatterns_waiting :
    compiledPatterns waiting.patterns = [slotPattern, textPattern] := by
  have hslot : (Pattern.compile "%a%").toOption = some slotPattern.tree := by
    cbv
  have htext : (Pattern.compile "wait").toOption = some textPattern.tree := by
    cbv
  have hopen : (Pattern.compile "(").toOption = none := by
    cbv
  simp [compiledPatterns, waiting, hslot, htext, hopen, slotPattern, textPattern]

set_option maxRecDepth 4000 in
theorem refusal?_attempt_waiting :
    refusal? ((empty Config.standard).attempt
      (Registration.filled "one" [.addEffect waiting.element waiting.patterns none])).1 =
        none := by
  rw [refusal?_attempt]
  cbv

theorem publishedFrom_waits :
    ∃ types,
      PublishedFrom Config.standard waits .effects waiting types waitingEntry ∧
        slotPattern.isKnown types = false := by
  have haccepted := refusal?_attempt_waiting
  rw [attempt] at haccepted
  cases hregister : (empty Config.standard).register
      (Registration.filled "one" [.addEffect waiting.element waiting.patterns none]) with
  | error e =>
      rw [hregister] at haccepted
      cases haccepted
  | ok result =>
      obtain ⟨ds, c'⟩ := result
      have hslot : slotPattern.isKnown c'.types.types = false := by
        rw [(publishes_of_register hregister).types]
        decide +kernel
      refine ⟨c'.types.types, .now hregister List.mem_cons_self ?_, hslot⟩
      have hkept : (compiledPatterns waiting.patterns).filter
          (CompiledPattern.isKnown c'.types.types) = [textPattern] := by
        rw [compiledPatterns_waiting, List.filter_cons_of_neg (by simp [hslot])]
        rfl
      refine (PendingPhrase.accepted?_eq c'.types.types "one" waiting).trans ?_
      rw [hkept, compiledPatterns_waiting]
      rfl

/-- The slot is ranked below the text, which alone is published. -/
theorem not_isLowestRank_waitingEntry :
    ¬IsLowestRank (Ranked.rank waitingEntry) waitingEntry.patterns := by
  intro hlowest
  obtain ⟨p, hp, hrank⟩ := hlowest.attained
  cases List.mem_singleton.1 hp
  exact absurd hrank (by decide)

/-- The effect has the priority of a slot that is not among its patterns. -/
theorem priority_isLowestRank_iff_waits :
    ∃ types,
      PublishedFrom Config.standard waits .effects waiting types waitingEntry ∧
        waitingEntry ∈ (after Config.standard waits).effects ∧
        IsLowestRank 2 (compiledPatterns waiting.patterns) ∧
        ∃ p ∈ compiledPatterns waiting.patterns,
          p.isKnown types = false ∧ ∀ q ∈ waitingEntry.patterns, p.rank < q.rank := by
  obtain ⟨types, hfrom, -⟩ := publishedFrom_waits
  obtain ⟨hmem, -, hlowest, hiff⟩ :=
    (priority_isLowestRank_iff Config.standard waits .effects).2 waiting types
      waitingEntry hfrom rfl
  have hbelow := (not_congr hiff).1 not_isLowestRank_waitingEntry
  push Not at hbelow
  exact ⟨types, hfrom, hmem, hlowest, hbelow⟩

/-- So a priority that follows from patterns need not
be the lowest rank of those that are published. -/
theorem not_forall_priority_isLowestRank :
    ¬∀ (config : Config) (h : History ⟨Unit, Unit⟩) (k : Category)
        (d : k.Declared ⟨Unit, Unit⟩)
        (types : Typing.Registry) (e : k.Entry ⟨Unit, Unit⟩),
        PublishedFrom config h k d types e → k.priority? d = none →
          IsLowestRank (Ranked.rank e) (k.patterns e) := by
  intro hall
  obtain ⟨types, hfrom, -⟩ := publishedFrom_waits
  exact not_isLowestRank_waitingEntry
    (hall Config.standard waits .effects waiting types waitingEntry hfrom rfl)

end Dropped

end Catalog
end TriggerScript
