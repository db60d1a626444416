import TriggerScript.Proofs.Catalog.History

/-!
# Addons and their events

A catalog keeps account of its events twice: it lists the events themselves in match
order, and for each addon the names of the events that it published. The two accounts are
written in different places, and they agree after every history.
-/

namespace TriggerScript
namespace Catalog

open Script Report

variable {H : Host} {α : Type}

section Records

/-- An addon that registers again keeps its place, and a new one comes last. -/
theorem eraseDups_concat
    (names : List String) (name : String) :
    (names ++ [name]).eraseDups =
      if name ∈ names.eraseDups then names.eraseDups else names.eraseDups ++ [name] := by
  rw [List.eraseDups_append]
  by_cases h : name ∈ names <;> simp [List.cons_removeAll, List.eraseDups_cons, h]

/-- Whatever is recorded for the addons so far, the
new events come behind those of their addon. -/
theorem recordAddon_map
    {names : List String} {name : String} {recorded : String → List String}
    (hnodup : names.Nodup)
    (hnew : name ∉ names → recorded name = [])
    (events : List String) :
    recordAddon name events (names.map fun n => ⟨n, recorded n⟩) =
      (if name ∈ names then names else names ++ [name]).map fun n =>
        ⟨n, recorded n ++ if n = name then events else []⟩ := by
  induction names with
  | nil =>
      simp [recordAddon, hnew]
  | cons n names ih =>
      obtain ⟨hn, hnames⟩ := List.nodup_cons.1 hnodup
      rw [List.map_cons, recordAddon]
      by_cases hsame : n = name
      · subst hsame
        have hothers : ∀ m ∈ names, m ≠ n := by
          rintro m hm rfl
          exact hn hm
        simp only [if_true, List.mem_cons_self, List.map_cons]
        congr 1
        refine List.map_congr_left ?_
        intro m hm
        simp [hothers m hm]
      · have hmem : name ∈ n :: names ↔ name ∈ names := by
          simp [Ne.symm hsame]
        rw [hmem] at hnew
        simp only [hsame, if_false, hmem, ih hnames hnew]
        split <;> simp [hsame]

end Records

section Survivors

/-- Whether a declared element has a pattern that can
be compiled, with slots that name known types. -/
def PendingPhrase.survives
    [Regex.Dialect]
    (types : Typing.Registry) (p : PendingPhrase H α) : Bool :=
  (compiledPatterns p.patterns).any (CompiledPattern.isKnown types)

theorem PendingPhrase.accepted?_eq_none
    [Regex.Dialect]
    {types : Typing.Registry} {addon : String} {p : PendingPhrase H α}
    (h : p.survives types = false) :
    p.accepted? types addon = none := by
  rw [survives, List.any_eq_false] at h
  have hnone :
      (compiledPatterns p.patterns).filter (CompiledPattern.isKnown types) = [] :=
    List.filter_eq_nil_iff.2 h
  rw [accepted?_eq, if_pos hnone]

/-- What is published of an element that survives has its name, and that of the addon. -/
theorem PendingPhrase.exists_accepted?
    [Regex.Dialect]
    {types : Typing.Registry} {p : PendingPhrase H α}
    (h : p.survives types = true)
    (addon : String) :
    ∃ q, p.accepted? types addon = some q ∧ q.element = p.element ∧ q.addon = addon := by
  obtain ⟨c, hc, hknown⟩ := List.any_eq_true.1 h
  have hkept :
      (compiledPatterns p.patterns).filter (CompiledPattern.isKnown types) ≠ [] :=
    List.ne_nil_of_mem (List.mem_filter.2 ⟨hc, hknown⟩)
  rw [accepted?_eq, if_neg hkept]
  exact ⟨_, rfl, rfl, rfl⟩

end Survivors

/-- The addon that an event comes from, and the name of its element. -/
def EventEntry.handled
    (e : EventEntry H) : String × String :=
  (e.phrase.addon, e.phrase.element.name)

/-- The names that stand behind the name of one addon. -/
def namesUnder
    (addon : String) (handled : List (String × String)) : List String :=
  (handled.filter fun p => p.1 == addon).map Prod.snd

theorem namesUnder_append
    (addon : String) (handled more : List (String × String)) :
    namesUnder addon (handled ++ more) =
      namesUnder addon handled ++ namesUnder addon more := by
  simp [namesUnder]

theorem namesUnder_map
    (addon other : String) (events : List String) :
    namesUnder addon (events.map fun name => (other, name)) =
      if addon = other then events else [] := by
  by_cases h : other = addon
  · simp [namesUnder, List.filter_map, Function.comp_def, h]
  · simp [namesUnder, List.filter_map, Function.comp_def, h, Ne.symm h]

/-- The events of a registration that survive, in the order of declaration. -/
def Registration.handled
    [Regex.Dialect]
    (types : Typing.Registry) (r : Registration H) : List (String × String) :=
  (r.events.filter fun e => e.phrase.survives types).map fun e =>
    (r.addon, e.phrase.element.name)

theorem Registration.handled_eq
    [Regex.Dialect]
    (types : Typing.Registry) (r : Registration H) :
    (r.accepted types .events).map EventEntry.handled = r.handled types := by
  have hevents : ∀ events : List (PendingEvent H),
      (events.filterMap (PendingEvent.accepted? types r.addon)).map EventEntry.handled =
        (events.filter fun e => e.phrase.survives types).map fun e =>
          (r.addon, e.phrase.element.name) := by
    intro events
    induction events with
    | nil =>
        rfl
    | cons e events ih =>
        have haccepted := e.accepted?_eq types r.addon
        cases hsurvives : e.phrase.survives types with
        | false =>
            rw [PendingPhrase.accepted?_eq_none hsurvives] at haccepted
            rw [List.filterMap_cons_none haccepted,
              List.filter_cons_of_neg (by simp [hsurvives]), ih]
        | true =>
            obtain ⟨q, hq, helement, haddon⟩ :=
              PendingPhrase.exists_accepted? hsurvives r.addon
            rw [hq] at haccepted
            rw [List.filterMap_cons_some haccepted, List.filter_cons, if_pos hsurvives,
              List.map_cons, List.map_cons, ih, EventEntry.handled, helement, haddon]
  exact hevents r.events

section Histories

/-- The name of the addon whose registration is accepted in a step. -/
def Step.registrant?
    [Regex.Dialect]
    (c : Catalog H) : Step H → Option String
  | .register addon calls =>
      if (c.register (Registration.filled addon calls)).isOk then some addon else none
  | .ask _ _ => none

/-- The surviving events of the registration that is accepted in a step. -/
def Step.handled
    [Regex.Dialect]
    (c : Catalog H) : Step H → List (String × String)
  | .register addon calls =>
      match c.register (Registration.filled addon calls) with
      | .ok r => (Registration.filled addon calls).handled r.2.types.types
      | .error _ => []
  | .ask _ _ => []

/-- The addons of all accepted registrations, the first of them first. -/
def registrants
    [Regex.Dialect]
    (config : Config) : History H → List String
  | [] => []
  | step :: earlier =>
      registrants config earlier ++ (step.registrant? (after config earlier)).toList

/-- The surviving events of all accepted registrations, in the order of declaration. -/
def handled
    [Regex.Dialect]
    (config : Config) : History H → List (String × String)
  | [] => []
  | step :: earlier => handled config earlier ++ step.handled (after config earlier)

theorem addon_run
    {r r' : Registration H} {call : Call H}
    (h : call.run r = .ok r') :
    r'.addon = r.addon := by
  cases call with
  | addType d =>
      cases h
      rfl
  | addConverter d =>
      cases h
      rfl
  | addComparator d =>
      cases h
      rfl
  | addExpression e returnType isSingle patterns priority =>
      obtain ⟨n?, -, rfl⟩ := Draft.conclude_ok h
      rfl
  | addEffect e patterns priority =>
      obtain ⟨n?, -, rfl⟩ := Draft.conclude_ok h
      rfl
  | addSection e patterns priority =>
      obtain ⟨n?, -, rfl⟩ := Draft.conclude_ok h
      rfl
  | addEvent e patterns contexts priority =>
      obtain ⟨n?, -, rfl⟩ := Draft.conclude_ok h
      rfl
  | addContextValue v =>
      cases h
      rfl
  | addTag name blueprint priority =>
      obtain ⟨n, -, rfl⟩ := addTag_ok h
      rfl

theorem addon_filled
    (addon : String) (calls : List (Call H)) :
    (Registration.filled addon calls).addon = addon := by
  refine List.foldlRecOn
    (motive := fun r : Registration H => r.addon = addon) calls _ rfl ?_
  intro r hr call _
  rw [← hr, Registration.perform]
  split
  · rename_i r' hrun
    exact addon_run hrun
  · rfl

/-- An accepted registration records its addon with the events that survive. -/
theorem addons_of_register
    [Regex.Dialect]
    {c c' : Catalog H} {r : Registration H} {ds : List Diagnostic}
    (h : c.register r = .ok (ds, c')) :
    c'.addons =
      recordAddon r.addon ((r.handled c'.types.types).map Prod.snd) c.addons := by
  unfold register at h
  split at h
  · cases h
  · rename_i b queue hstage
    have hc' : c' = (c.publish b queue).1 := by
      cases h
      rfl
    rw [hc', stage_ok hstage, publish_fst, types_performAll_chaining,
      ← Registration.handled_eq, ← filterMap_batch_events, List.map_map]
    rfl

/-- A step registers an addon, or it leaves addons and events as they are. -/
theorem registers_or_keeps
    [Regex.Dialect]
    (c : Catalog H) (step : Step H) :
    (∃ addon events,
        step.registrant? c = some addon ∧
          step.handled c = events.map (fun name => (addon, name)) ∧
          (c.perform step).addons = recordAddon addon events c.addons) ∨
      step.registrant? c = none ∧ step.handled c = [] ∧
        (c.perform step).addons = c.addons := by
  cases step with
  | register addon calls =>
      rw [Step.registrant?, Step.handled, perform]
      cases h : c.register (Registration.filled addon calls) with
      | ok r =>
          refine Or.inl ⟨addon,
            ((Registration.filled addon calls).handled r.2.types.types).map Prod.snd,
            rfl, ?_, ?_⟩
          · simp [Registration.handled, addon_filled]
          · rw [addons_of_register h, addon_filled]
      | error e =>
          exact Or.inr ⟨rfl, rfl, rfl⟩
  | ask a b =>
      exact Or.inr ⟨rfl, rfl, rfl⟩

/-- Only addons that registered have events. -/
theorem namesUnder_handled_eq_nil
    [Regex.Dialect]
    (config : Config) (h : History H) {addon : String}
    (hnew : addon ∉ registrants config h) :
    namesUnder addon (handled config h) = [] := by
  induction h with
  | nil =>
      rfl
  | cons step earlier ih =>
      rw [registrants, List.mem_append, not_or] at hnew
      rw [handled, namesUnder_append, ih hnew.1, List.nil_append]
      obtain ⟨other, events, hother, hevents, -⟩ | ⟨-, hevents, -⟩ :=
        registers_or_keeps (after config earlier) step
      · have hne : addon ≠ other := by
          rintro rfl
          exact hnew.2 (by simp [hother])
        rw [hevents, namesUnder_map, if_neg hne]
      · rw [hevents]
        rfl

theorem nodup_registrants
    [Regex.Dialect]
    (config : Config) (h : History H) :
    (registrants config h).eraseDups.Nodup := by
  induction h with
  | nil =>
      exact List.nodup_nil
  | cons step earlier ih =>
      rw [registrants]
      cases step.registrant? (after config earlier) with
      | none =>
          rw [Option.toList_none, List.append_nil]
          exact ih
      | some addon =>
          rw [Option.toList_some, eraseDups_concat]
          split
          · exact ih
          · rename_i hnew
            rw [← List.concat_eq_append]
            exact ih.concat hnew

/-- The addons are those that registered, each of them once, with all of their events. -/
theorem addons_eq
    [Regex.Dialect]
    (config : Config) (h : History H) :
    (after config h).addons =
      (registrants config h).eraseDups.map fun name =>
        ⟨name, namesUnder name (handled config h)⟩ := by
  induction h with
  | nil =>
      rfl
  | cons step earlier ih =>
      rw [after, registrants, handled]
      obtain ⟨addon, events, haddon, hevents, hrecord⟩ | ⟨haddon, hevents, hkeep⟩ :=
        registers_or_keeps (after config earlier) step
      · have hnew : addon ∉ (registrants config earlier).eraseDups →
            namesUnder addon (handled config earlier) = [] := by
          rw [List.mem_eraseDups]
          exact namesUnder_handled_eq_nil config earlier
        rw [hrecord, ih, recordAddon_map (nodup_registrants config earlier) hnew,
          haddon, hevents, Option.toList_some, eraseDups_concat]
        refine List.map_congr_left ?_
        intro name _
        rw [namesUnder_append, namesUnder_map]
      · rw [hkeep, ih, haddon, hevents]
        simp

/-- The events that were published are those that survived. -/
theorem map_handled_accepted
    [Regex.Dialect]
    (config : Config) (h : History H) :
    (accepted config h .events).map EventEntry.handled = handled config h := by
  induction h with
  | nil =>
      rfl
  | cons step earlier ih =>
      have hstep :
          (step.accepted (after config earlier) .events).map EventEntry.handled =
            step.handled (after config earlier) := by
        cases step with
        | register addon calls =>
            simp only [Step.accepted, Step.handled]
            cases (after config earlier).register (Registration.filled addon calls) with
            | ok r =>
                exact Registration.handled_eq _ _
            | error e =>
                rfl
        | ask a b =>
            rfl
      rw [handled, ← ih, ← hstep]
      exact List.map_append

end Histories

/-- The addons of a catalog are those whose registrations were accepted, each of them
once and in the order in which they registered first, with the names of their events in
the order of publication. These are the events that are published under the name of the
addon, as often as they are published; and events that were left out, because no pattern
of them could be compiled and names known types only, are in neither account. -/
theorem addons_after
    [Regex.Dialect]
    (config : Config) (h : History H) :
    (after config h).addons =
        (registrants config h).eraseDups.map
          (fun name => ⟨name, namesUnder name (handled config h)⟩) ∧
      ((after config h).addons.map Addon.name).Nodup ∧
      (∃ log : List (EventEntry H),
        log.map EventEntry.handled = handled config h ∧
          InMatchOrder log (after config h).events) ∧
      (∀ a ∈ (after config h).addons,
        a.events.Perm
          (namesUnder a.name ((after config h).events.map EventEntry.handled))) ∧
      ∀ e ∈ (after config h).events, ∃ a ∈ (after config h).addons,
        a.name = e.phrase.addon ∧ a.handlesEvent e.phrase.element.name = true := by
  have hevents : (after config h).events = sortByRank (accepted config h .events) :=
    published_after config h .events
  have hlog := map_handled_accepted config h
  have hperm :
      ((after config h).events.map EventEntry.handled).Perm (handled config h) := by
    rw [hevents, ← hlog]
    exact (perm_sortByRank _).map _
  have haddons := addons_eq config h
  refine ⟨haddons, ?_, ⟨_, hlog, ?_⟩, ?_, ?_⟩
  · rw [haddons, List.map_map]
    simpa [Function.comp_def] using nodup_registrants config h
  · rw [hevents]
    exact inMatchOrder_sortByRank _
  · intro a ha
    rw [haddons] at ha
    obtain ⟨name, _, rfl⟩ := List.mem_map.1 ha
    exact ((hperm.filter _).map _).symm
  · intro e he
    have hhandled : e.handled ∈ handled config h :=
      hperm.mem_iff.1 (List.mem_map_of_mem he)
    have hname : e.phrase.element.name ∈ namesUnder e.phrase.addon (handled config h) :=
      List.mem_map.2 ⟨e.handled, List.mem_filter.2 ⟨hhandled, beq_self_eq_true _⟩, rfl⟩
    have hregistered : e.phrase.addon ∈ registrants config h := by
      by_contra hnew
      rw [namesUnder_handled_eq_nil config h hnew] at hname
      cases hname
    refine ⟨⟨e.phrase.addon, namesUnder e.phrase.addon (handled config h)⟩, ?_, rfl, ?_⟩
    · rw [haddons]
      exact List.mem_map_of_mem (List.mem_eraseDups.2 hregistered)
    · exact List.contains_iff_mem.2 hname

end Catalog
end TriggerScript
