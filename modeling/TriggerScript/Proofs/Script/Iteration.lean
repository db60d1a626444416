import TriggerScript.Proofs.Script.Description
import TriggerScript.Proofs.Script.Jumps

/-!
# Iterations

What a jump to the next iteration of a loop does to a run. The sections inside of the
loop are dropped with their states; the loop then goes on with its next value, or is left
if there is none. All other active sections stay, and so do the states of all other
statements.
-/

namespace TriggerScript
namespace Script

variable {H : Host}

namespace SectionMemory

theorem get?_erase_self
    (m : SectionMemory H) (id : StatementId) :
    (m.erase id).get? id = none := by
  unfold get? erase
  rw [List.lookup_eq_none_iff]
  intro entry hentry
  have hne : entry.1 ≠ id := bne_iff_ne.1 (List.mem_filter.1 hentry).2
  exact bne_iff_ne.2 hne.symm

end SectionMemory

/-- The states of some dropped sections are gone,
and those of all others but one loop are kept. -/
structure KeepsOthers
    (dropped : List ActiveSection) (looping : StatementId)
    (before after : SectionMemory H) :
    Prop where
  gone : ∀ s ∈ dropped, after.get? s.id = none
  kept : ∀ id, id ≠ looping → (∀ s ∈ dropped, s.id ≠ id) → after.get? id = before.get? id

/-- How a walk goes on once a loop that was on one
of its values is asked for its next iteration. -/
inductive Iterates
    (t : Trigger H) (looping : StatementId) (cursor : LoopCursor)
    (outer : List ActiveSection)
    (w : Walk H) : Prop
  /-- With the body once more, on the value that comes next. -/
  | again
      {first : StatementId}
      (more : cursor.index + 1 < cursor.values.length)
      (body : (t.node? looping).bind Node.body = some first)
      (enters : w.cursor = some ⟨first, .enter⟩)
      (active : w.invocation.active = ⟨looping, true⟩ :: outer)
      (state : w.invocation.memory.cursor? looping =
        some ⟨cursor.values, cursor.index + 1⟩)
  /-- With what follows the loop, which was on its last value. -/
  | done
      (last : cursor.index + 1 = cursor.values.length)
      (follows : w.cursor = (t.successor? looping).map fun next =>
        ⟨next, if next ∈ outer.map ActiveSection.id then .resume else .enter⟩)
      (active : w.invocation.active = outer)
      (state : w.invocation.memory.get? looping = none)

section Loops

variable {v : Invocation H} {place : SectionPlace} {cursor : LoopCursor}

/-- A loop on one of its values goes on with the next one, or is left on the last one. -/
theorem walk_loop_nextIteration
    (looped : Option (Expression H))
    (hcursor : v.memory.cursor? place.id = some cursor)
    (hon : cursor.isOnValue = true) :
    (cursor.index + 1 < cursor.values.length ∧
        (loop looped).walk v place .nextIteration =
          (place.body, ⟨v.world, v.memory.set place.id (.loop cursor.next)⟩)) ∨
      (cursor.index + 1 = cursor.values.length ∧
        (loop looped).walk v place .nextIteration =
          (place.after, ⟨v.world, v.memory.erase place.id⟩)) := by
  have hlt : cursor.index < cursor.values.length := of_decide_eq_true hon
  by_cases hmore : cursor.index + 1 < cursor.values.length
  · refine .inl ⟨hmore, ?_⟩
    simp [loop, hcursor, LoopCursor.isOnValue, LoopCursor.next, hmore]
  · refine .inr ⟨by omega, ?_⟩
    simp [loop, hcursor, LoopCursor.isOnValue, LoopCursor.next, hmore]

end Loops

namespace Invocation

/-- Going back to a section drops exactly the
sections inside of it, with their states. -/
theorem unwound_append
    {inner : List ActiveSection} {s : ActiveSection}
    (hne : ∀ s' ∈ inner, s'.id ≠ s.id)
    (outer : List ActiveSection) (memory : SectionMemory H) :
    ∃ left, unwound s.id (inner ++ s :: outer) memory = (s :: outer, left) ∧
      (∀ s' ∈ inner, left.get? s'.id = none) ∧
      ∀ id, (∀ s' ∈ inner, s'.id ≠ id) → left.get? id = memory.get? id := by
  induction inner generalizing memory with
  | nil =>
      exact ⟨memory, if_pos rfl, by simp, fun _ _ => rfl⟩
  | cons i inner ih =>
      obtain ⟨hi, hinner⟩ := List.forall_mem_cons.1 hne
      obtain ⟨left, hleft, hgone, hkept⟩ := ih hinner (memory.erase i.id)
      refine ⟨left, ?_, List.forall_mem_cons.2 ⟨?_, hgone⟩, ?_⟩
      · rw [← hleft]
        exact if_neg hi
      · by_cases hagain : ∃ s' ∈ inner, s'.id = i.id
        · obtain ⟨s', hs', hid⟩ := hagain
          rw [← hid]
          exact hgone s' hs'
        · rw [hkept i.id fun s' hs' hid => hagain ⟨s', hs', hid⟩]
          exact SectionMemory.get?_erase_self _ _
      · intro id hid
        obtain ⟨hne, hothers⟩ := List.forall_mem_cons.1 hid
        rw [hkept id hothers, SectionMemory.get?_erase_of_ne hne.symm]

end Invocation

namespace Layout

/-- There is a first statement in the body of a section that something stands in. -/
theorem Nested.exists_first
    {l : Layout H} {n : Nat} {q : Placed H} {s : OpenSection}
    (hnested : l.Nested)
    (hq : l[n]? = some q)
    (hs : s ∈ q.around) :
    ∃ first, (l.children (some s.id)).head? = some first := by
  obtain ⟨sec, outer, hsec, -⟩ := hnested.exists_section (hnested n q hq) hs
  have hlt := (hnested.pairwise (hnested n q hq)).1 s hs
  have hlength := (List.getElem?_eq_some_iff.1 hq).1
  have hnext : l[s.id.raw + 1]? = some l[s.id.raw + 1] :=
    List.getElem?_eq_getElem (by omega)
  have hinside :=
    hnested.isInside_of_le hnext hq (Placed.isInside_some_iff.2 ⟨s, hs, rfl⟩)
      (Nat.lt_succ_self _) hlt
  exact ⟨_, (hnested.children_of_isInside hsec hnext hinside).2⟩

end Layout

namespace Trigger

variable {t : Trigger H} {l : Layout H} {id : StatementId}

section Following

variable {v : Invocation H} {p : Placed H}

/-- What follows a statement gets control back if it is the section around, and is
entered otherwise. Nothing is dropped. -/
theorem LinkedAs.arrive?_successor?
    (h : t.LinkedAs l)
    (hp : l[id.raw]? = some p)
    (hactive : v.active = p.around.map OpenSection.running) :
    arrive? (t.successor? id) v =
      ⟨(t.successor? id).map fun next =>
        ⟨next, if next ∈ v.active.map ActiveSection.id then .resume else .enter⟩,
          v⟩ := by
  have hmem : ∀ next, v.isActive next = true ↔ next ∈ v.active.map ActiveSection.id := by
    intro next
    simp [Invocation.isActive]
  cases hafter : t.successor? id with
  | none =>
      rfl
  | some next =>
      rw [arrive?, arrive, Option.map_some]
      by_cases hback : v.isActive next = true
      · -- only the innermost section can follow, so there is nothing inside of it
        have hunwind : v.unwindTo next = v := by
          rw [h.successor?_eq hp] at hafter
          cases hsibling : l.sibling? id.raw p with
          | some sibling =>
              rw [hsibling] at hafter
              cases hafter
              obtain ⟨hlt, -⟩ := Layout.sibling?_spec hsibling
              obtain ⟨s, hs, rfl⟩ := (Invocation.isActive_iff hactive next).1 hback
              have hbefore := (h.nested.pairwise (h.nested _ p hp)).1 s hs
              omega
          | none =>
              rw [hsibling] at hafter
              obtain ⟨s, hs, rfl⟩ := Option.map_eq_some_iff.1 hafter
              obtain ⟨outer, haround⟩ := List.head?_eq_some_iff.1 hs
              rw [haround] at hactive
              have hunwound :
                  Invocation.unwound s.id v.active v.memory = (v.active, v.memory) := by
                rw [hactive]
                exact if_pos rfl
              rw [Invocation.unwindTo, hunwound]
        rw [if_pos hback, if_pos ((hmem next).1 hback), hunwind]
      · rw [if_neg hback, if_neg fun hin => hback ((hmem next).2 hin)]

end Following

section Jumping

variable {v : Invocation H} {looped : Option (Expression H)} {outer : List OpenSection}
  {cursor : LoopCursor} {first : StatementId}

/-- The next iteration of a loop that is on one of
its values changes nothing but the loop. -/
theorem LinkedAs.step_nextIteration
    (h : t.LinkedAs l)
    (hp : l[id.raw]? = some ⟨.ofSection (loop looped), outer⟩)
    (hfirst : (l.children (some id)).head? = some first)
    (hactive : v.active = ⟨id, true⟩ :: outer.map OpenSection.running)
    (hcursor : v.memory.cursor? id = some cursor)
    (hon : cursor.isOnValue = true) :
    ∃ w, t.step ⟨some ⟨id, .nextIteration⟩, v⟩ = some w ∧
      w.invocation.world = v.world ∧
      (∀ other, other ≠ id → w.invocation.memory.get? other = v.memory.get? other) ∧
      Iterates t id cursor (outer.map OpenSection.running) w := by
  let node := l.node id.raw ⟨.ofSection (loop looped), outer⟩
  have hnode : t.node? id = some node := h.node?_eq hp
  have hbody : node.body = some first := hfirst
  have hstep : t.step ⟨some ⟨id, .nextIteration⟩, v⟩ =
      some (t.stepSection ⟨id, .nextIteration⟩ node (loop looped) v) := by
    simp only [step, hnode]
    rfl
  have hcursor' : v.memory.cursor? (t.place id node).id = some cursor := hcursor
  rcases walk_loop_nextIteration looped hcursor' hon with
    ⟨hmore, hwalk⟩ | ⟨hlast, hwalk⟩
  · rw [show (t.place id node).body = some first from hbody] at hwalk
    have hagain := stepSection_of_body (c := ⟨id, .nextIteration⟩) hbody hwalk
    rw [hagain] at hstep
    refine ⟨_, hstep, rfl, ?_, ?_⟩
    · intro other hother
      exact SectionMemory.get?_set_of_ne hother _ _
    · refine .again hmore ?_ rfl hactive (SectionMemory.cursor?_set _ _ _)
      rw [hnode]
      exact hbody
  · let rest : Invocation H :=
      ⟨⟨v.world, v.memory.erase id⟩, outer.map OpenSection.running⟩
    have hleave : (v.withStore ⟨v.world, v.memory.erase id⟩).leave id = rest := by
      unfold Invocation.leave
      rw [show (v.withStore ⟨v.world, v.memory.erase id⟩).active = _ from hactive]
      exact if_pos rfl
    have hne : t.successor? id = node.body → t.successor? id = none := by
      intro hsame
      exact absurd (hsame.trans hbody)
        (h.successor?_ne hp (List.mem_of_mem_head? hfirst))
    have hdone := stepSection_of_ne_body (c := ⟨id, .nextIteration⟩) hne hwalk
    have harrive := h.arrive?_successor? (v := rest) hp rfl
    rw [hdone, show (t.place id node).id = id from rfl, hleave, harrive] at hstep
    refine ⟨_, hstep, rfl, ?_, ?_⟩
    · intro other hother
      exact SectionMemory.get?_erase_of_ne hother _
    · exact .done hlast rfl rfl (SectionMemory.get?_erase_self _ _)

/-- A jump to a section around drops exactly the
active sections inside of it, with their states. -/
theorem LinkedAs.exists_unwindTo
    (h : t.LinkedAs l)
    {p : Placed H} {s : OpenSection}
    (hp : l[id.raw]? = some p)
    (hactive : v.active = p.around.map OpenSection.running)
    (hs : s ∈ p.around) :
    ∃ sec outer inner left,
      l[s.id.raw]? = some ⟨.ofSection sec, outer⟩ ∧
      sec.isLoop = s.isLoop ∧
      v.active = inner ++ s.running :: outer.map OpenSection.running ∧
      (∀ s' ∈ inner, s'.id ≠ s.id) ∧
      v.unwindTo s.id = ⟨⟨v.world, left⟩, s.running :: outer.map OpenSection.running⟩ ∧
      (∀ s' ∈ inner, left.get? s'.id = none) ∧
      ∀ other, (∀ s' ∈ inner, s'.id ≠ other) →
        left.get? other = v.memory.get? other := by
  have hadmits := h.nested _ _ hp
  obtain ⟨sec, outer, hsec, hshape, ⟨inside, hinside⟩⟩ :=
    h.nested.exists_section hadmits hs
  have hsplit : v.active =
      inside.map OpenSection.running ++ s.running :: outer.map OpenSection.running := by
    rw [hactive, ← hinside, List.map_append, List.map_cons]
  have hne : ∀ s' ∈ inside.map OpenSection.running, s'.id ≠ s.running.id := by
    intro s' hs' hsame
    obtain ⟨i, hi, rfl⟩ := List.mem_map.1 hs'
    have hpairwise := (h.nested.pairwise hadmits).2
    rw [← hinside] at hpairwise
    have hlt := (List.pairwise_append.1 hpairwise).2.2 i hi s List.mem_cons_self
    rw [show i.id = s.id from hsame] at hlt
    exact Nat.lt_irrefl _ hlt
  obtain ⟨left, hleft, hgone, hkept⟩ :=
    Invocation.unwound_append hne (outer.map OpenSection.running) v.memory
  rw [← hsplit] at hleft
  refine ⟨sec, outer, _, left, hsec, ?_, hsplit, hne, ?_, hgone, hkept⟩
  · rw [hshape]
  · rw [Invocation.unwindTo, show s.id = s.running.id from rfl, hleft]

end Jumping

/-- A jump and the iteration that it asks for, in every walk of a finished script whose
loops are loops over values and have their states to themselves. The active sections
inside of the loop are dropped with their states. Nothing else changes but the loop,
which was on one of its values: it goes on with its body on the next value, or behind the
last one without a state to what follows. -/
theorem continue_iterates
    {types : TypeSystem} {limits : Report.Limits} {before behind : Assembly.Journal H}
    {es : List (Expression H)} {info : MatchInfo} {t : Trigger H}
    (haccepted :
      (Assembly.after types limits before).answer (.effect continueBlueprint es info) =
        true)
    (hbuild : (Assembly.after types limits
      (behind ++ .effect continueBlueprint es info :: before)).build = .ok t)
    (hloops : ∀ node ∈ t.nodes, ∀ s, node.statement = .ofSection s → s.isLoop = true →
      ∃ looped, s = loop looped)
    (context : Context H) (types' : TypeSystem)
    (horderly : ∀ n, t.OrderlyAt (t.walk n (Invocation.start context types')).2)
    (hquiet : ∀ n, t.QuietAt (t.walk n (Invocation.start context types')).2)
    (fuel : Nat) {c : Cursor} {v : Invocation H}
    (hwalk : (t.walk fuel (Invocation.start context types')).2 = ⟨some c, v⟩)
    (hid : c.id = (Assembly.after types limits before).nextId) :
    ∃ looping inner outer cursor jumped next,
      t.statement? c.id = some (.ofEffect continueEffect) ∧
      (continueEffect.walk v).1 = .redirect looping true ∧
      v.active = inner ++ ⟨looping, true⟩ :: outer ∧
      (∀ s ∈ inner, s.id ≠ looping) ∧
      v.memory.cursor? looping = some cursor ∧
      cursor.index < cursor.values.length ∧
      t.step ⟨some c, v⟩ = some jumped ∧
      jumped.cursor = some ⟨looping, .nextIteration⟩ ∧
      t.step jumped = some next ∧
      next.invocation.world = v.world ∧
      KeepsOthers inner looping v.memory next.invocation.memory ∧
      Iterates t looping cursor outer next := by
  obtain ⟨l, hlinked⟩ := Assembly.linkedAs_of_build hbuild
  obtain ⟨opened, hopened, hp⟩ := Assembly.placed_of_continue haccepted behind
  rw [← hid] at hp
  have hfound :
      (Assembly.after types limits before).state.sections.find? OpenSection.isLoop =
        some opened := hopened
  have hmem := List.mem_of_find?_eq_some hfound
  have hisLoop : opened.isLoop = true := List.find?_some hfound
  have hstands := hlinked.standsOnValues_walk horderly hquiet fuel
  rw [hwalk] at hstands
  obtain ⟨around, hc, hactive, hvalues⟩ := hstands c rfl
  rw [hc.eq_of_effect hp] at hactive hvalues
  have hinnermost : v.innermostLoop? = some opened.id := by
    rw [Invocation.innermostLoop?_eq hactive, hfound]
    rfl
  have hjump : continueEffect.walk v = (.redirect opened.id true, v.toStore) := by
    simp only [continueEffect, hinnermost]
  -- the jump drops what is inside of the loop
  obtain ⟨sec, outer, inner, left, hsec, hsecLoop, hsplit, hinner,
    hunwind, hgone, hkept⟩ :=
    hlinked.exists_unwindTo hp hactive hmem
  rw [OpenSection.running, hisLoop] at hsplit hunwind
  have hstep := hlinked.step_of_continue hp hjump
  rw [hunwind] at hstep
  -- the iteration changes the loop only
  obtain ⟨looped, rfl⟩ := hloops _ (List.mem_of_getElem? (hlinked.node?_eq hsec)) sec rfl
    (hsecLoop.trans hisLoop)
  obtain ⟨cursor, hcursor, hon⟩ := hvalues opened hmem looped outer hsec
  obtain ⟨first, hfirst⟩ := hlinked.nested.exists_first hp hmem
  obtain ⟨next, hnext, hworld, hothers, hiterates⟩ :=
    hlinked.step_nextIteration (v := ⟨⟨v.world, left⟩, _⟩) hsec hfirst rfl
      ((SectionMemory.cursor?_congr (hkept opened.id hinner)).trans hcursor) hon
  refine ⟨opened.id, inner, outer.map OpenSection.running, cursor, _, next,
    hlinked.statement?_eq hp, congrArg Prod.fst hjump, hsplit, hinner, hcursor,
    of_decide_eq_true hon, hstep, rfl, hnext, hworld, ⟨?_, ?_⟩, hiterates⟩
  · intro s hs
    rw [hothers s.id (hinner s hs)]
    exact hgone s hs
  · intro id hne hout
    rw [hothers id hne]
    exact hkept id hout

theorem loops_jumping :
    ∀ node ∈ (Assembly.after TypeSystem.initial Report.Limits.standard jumping).nodes,
      ∀ s, node.statement = .ofSection s → s.isLoop = true →
        ∃ looped, s = loop looped := by
  refine List.forall_mem_cons.2
    ⟨?_, List.forall_mem_cons.2 ⟨?_, List.forall_mem_singleton.2 nofun⟩⟩
  · rintro s ⟨⟩ -
    exact ⟨_, rfl⟩
  · rintro s ⟨⟩ hloop
    cases hloop

/-- The jump in the condition in the loop, two
steps behind the start, drops the condition. -/
theorem continue_iterates_jumping :
    ∃ t c v looping inner outer cursor jumped next,
      (Assembly.after TypeSystem.initial Report.Limits.standard jumping).build = .ok t ∧
      (t.walk 2 (Invocation.start ⟨0, "now", ()⟩ TypeSystem.initial)).2 = ⟨some c, v⟩ ∧
      t.statement? c.id = some (.ofEffect continueEffect) ∧
      (continueEffect.walk v).1 = .redirect looping true ∧
      v.active = inner ++ ⟨looping, true⟩ :: outer ∧
      v.memory.cursor? looping = some cursor ∧
      t.step ⟨some c, v⟩ = some jumped ∧
      t.step jumped = some next ∧
      KeepsOthers inner looping v.memory next.invocation.memory ∧
      Iterates t looping cursor outer next := by
  have haccepted :
      (Assembly.after TypeSystem.initial Report.Limits.standard looping).answer
        (.effect continueBlueprint [] ⟨0, 0⟩) = true := rfl
  have hbuild : (Assembly.after TypeSystem.initial Report.Limits.standard
      ([.closeSection, .closeSection] ++
        .effect continueBlueprint [] ⟨0, 0⟩ :: looping)).build =
        .ok _ := rfl
  obtain ⟨id, inner, outer, cursor, jumped, next, hstatement, hjump, hactive, -,
    hcursor, -, hstep, -, hnext, -, hkeeps, hiterates⟩ :=
    continue_iterates haccepted hbuild loops_jumping ⟨0, "now", ()⟩ TypeSystem.initial
      (fun n => orderlyAt_of_statements orderly_jumping _)
      (fun n => quietAt_of_statements quiet_jumping _) 2 rfl rfl
  exact ⟨_, _, _, id, inner, outer, cursor, jumped, next, hbuild, rfl,
    hstatement, hjump, hactive, hcursor, hstep, hnext, hkeeps, hiterates⟩

end Trigger

end Script
end TriggerScript
