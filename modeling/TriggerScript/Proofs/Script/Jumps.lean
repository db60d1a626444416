import TriggerScript.Proofs.Script.Nesting

/-!
# Jumps and loop values

While a script is put together, a jump is told which loop is the innermost open one. The
sections that were open then are the ones around the jump, and these are active whenever
the jump is run: it leads to that loop, in every run. As long as nothing else touches the
states of loops, a loop whose body is running is on one of its values.
-/

namespace TriggerScript
namespace Script

variable {H : Host}

namespace Layout

/-- The loops among some sections are on one of their values. -/
def OnValues
    (l : Layout H) (memory : SectionMemory H) (around : List OpenSection) : Prop :=
  ∀ s ∈ around, ∀ looped outer,
    l[s.id.raw]? = some ⟨.ofSection (loop looped), outer⟩ →
      ∃ cursor, memory.cursor? s.id = some cursor ∧ cursor.isOnValue = true

theorem OnValues.congr
    {l : Layout H} {memory memory' : SectionMemory H} {around around' : List OpenSection}
    (h : l.OnValues memory around)
    (hsubset : around' ⊆ around)
    (hsame : ∀ s ∈ around', ∀ looped outer,
      l[s.id.raw]? = some ⟨.ofSection (loop looped), outer⟩ →
        memory'.get? s.id = memory.get? s.id) :
    l.OnValues memory' around' := by
  intro s hs looped outer hp
  obtain ⟨cursor, hcursor, hon⟩ := h s (hsubset hs) looped outer hp
  refine ⟨cursor, ?_, hon⟩
  rw [SectionMemory.cursor?_congr (hsame s hs looped outer hp), hcursor]

end Layout

namespace Walk

/-- Unless a walk has ended, the active sections are those at its cursor, and the loops
among them are on one of their values. -/
def StandsOnValues
    (l : Layout H) (w : Walk H) : Prop :=
  ∀ c, w.cursor = some c →
    ∃ around, l.Stands c around ∧
      w.invocation.active = around.map OpenSection.running ∧
      l.OnValues w.invocation.memory around

theorem GoesOn.standsOnValues
    {l : Layout H} {memory : SectionMemory H} {inside : List OpenSection} {w : Walk H}
    (h : w.GoesOn l memory inside)
    (hvalues : l.OnValues memory inside) :
    w.StandsOnValues l := by
  intro c hc
  obtain ⟨around, hstands, hsuffix, hactive, hmemory⟩ := h c hc
  refine ⟨around, hstands, hactive, hvalues.congr hsuffix.subset ?_⟩
  intro s hs _ _ _
  exact hmemory s hs

end Walk

namespace Trigger

def statement?
    (t : Trigger H) (id : StatementId) : Option (Statement H) :=
  (t.node? id).map Node.statement

/-- Whether the statement whose turn it is leaves
the states of loops alone, unless it is a loop. -/
def QuietAt
    (t : Trigger H) (w : Walk H) : Prop :=
  ∀ c node, w.cursor = some c → t.node? c.id = some node →
    ∀ id looped, t.statement? id = some (.ofSection (loop looped)) →
      match node.statement with
      | .ofEffect e =>
          (e.walk w.invocation).2.memory.get? id = w.invocation.memory.get? id
      | .ofSection s =>
          (∃ looped', s = loop looped') ∨
            (s.walk w.invocation (t.place c.id node) c.entry).2.memory.get? id =
              w.invocation.memory.get? id

theorem quietAt_of_statements
    {t : Trigger H}
    (h : ∀ node ∈ t.nodes, node.statement.Quiet)
    (w : Walk H) :
    t.QuietAt w := by
  intro c node _ hnode id _ _
  have hquiet := h node (List.mem_of_getElem? hnode)
  cases hstatement : node.statement with
  | ofEffect e =>
      rw [hstatement] at hquiet
      exact congrArg (SectionMemory.get? · id) (hquiet w.invocation)
  | ofSection s =>
      rw [hstatement] at hquiet
      refine hquiet.imp_right fun hsame => ?_
      exact congrArg (SectionMemory.get? · id)
        (hsame w.invocation (t.place c.id node) c.entry)

section Stepping

variable {t : Trigger H} {l : Layout H} {id : StatementId} {p : Placed H}

theorem LinkedAs.statement?_eq
    (h : t.LinkedAs l)
    (hp : l[id.raw]? = some p) :
    t.statement? id = some p.statement := by
  rw [statement?, h.node?_eq hp]
  rfl

/-- What follows a statement is not in its body. -/
theorem LinkedAs.successor?_ne
    (h : t.LinkedAs l)
    (hp : l[id.raw]? = some p)
    {first : StatementId}
    (hfirst : first ∈ l.children (some id)) :
    t.successor? id ≠ some first := by
  obtain ⟨q, hq, hparent⟩ := Layout.mem_children_iff.1 hfirst
  have hlt := h.nested.parent?_lt hq hparent
  rw [h.successor?_eq hp]
  intro hafter
  cases hnext : l.sibling? id.raw p with
  | some next =>
      obtain ⟨_, q', hq', hparent'⟩ := Layout.sibling?_spec hnext
      rw [hnext] at hafter
      cases hafter
      cases hq.symm.trans hq'
      rw [hparent] at hparent'
      exact Nat.lt_irrefl _ (h.nested.parent?_lt hp hparent'.symm)
  | none =>
      rw [hnext, Option.none_or] at hafter
      have hbefore := h.nested.parent?_lt hp hafter
      omega

/-- A section leaves the states of the loops around it alone. -/
theorem LinkedAs.get?_walk
    (h : t.LinkedAs l)
    {c : Cursor} {v : Invocation H} {sec : Section H} {outer : List OpenSection}
    (hp : l[c.id.raw]? = some ⟨.ofSection sec, outer⟩)
    (hquiet : t.QuietAt ⟨some c, v⟩) :
    ∀ s ∈ outer, ∀ looped around,
      l[s.id.raw]? = some ⟨.ofSection (loop looped), around⟩ →
        (sec.walk v ⟨c.id, (l.children (some c.id)).head?, t.successor? c.id⟩
          c.entry).2.memory.get? s.id = v.memory.get? s.id := by
  intro s hs looped around hloop
  have hkept := hquiet c _ rfl (h.node?_eq hp) s.id looped (h.statement?_eq hloop)
  rcases hkept with ⟨looped', rfl⟩ | hsame
  · refine get?_walk_loop ?_
    intro hid
    have hlt := (h.nested.pairwise (h.nested _ _ hp)).1 s hs
    rw [hid] at hlt
    exact Nat.lt_irrefl _ hlt
  · exact hsame

/-- One step keeps the loops that are active on their values. -/
theorem LinkedAs.standsOnValues_step
    (h : t.LinkedAs l)
    {w next : Walk H}
    (hstands : w.StandsOnValues l)
    (horderly : t.OrderlyAt w)
    (hquiet : t.QuietAt w)
    (hstep : t.step w = some next) :
    next.StandsOnValues l := by
  obtain ⟨cursor, v⟩ := w
  cases cursor with
  | none =>
      cases hstep
  | some c =>
      obtain ⟨around, hc, hactive, hvalues⟩ := hstands c rfl
      cases h.proceeds hc hactive horderly hstep with
      | effect hp hnext =>
          refine hnext.standsOnValues (hvalues.congr (hc.suffix hp).subset ?_)
          intro s _ looped outer hloop
          exact hquiet c _ rfl (h.node?_eq hp) s.id looped (h.statement?_eq hloop)
      | @body sec outer first hp hfirst hbody hnext =>
          have houter := (hvalues.congr (hc.suffix hp).subset (h.get?_walk hp hquiet))
          refine hnext.standsOnValues ?_
          intro s hs looped outer' hloop
          rcases List.mem_cons.1 hs with rfl | hs
          · cases hp.symm.trans hloop
            have hafter := h.successor?_ne hp (List.mem_of_mem_head? hfirst)
            exact isOnValue_walk_loop hafter hbody
          · exact houter s hs looped outer' hloop
      | past hp hnext =>
          refine hnext.standsOnValues (hvalues.congr (hc.suffix hp).subset ?_)
          exact h.get?_walk hp hquiet

theorem LinkedAs.standsOnValues_walk
    (h : t.LinkedAs l)
    {context : Context H} {types : TypeSystem}
    (horderly : ∀ n, t.OrderlyAt (t.walk n (Invocation.start context types)).2)
    (hquiet : ∀ n, t.QuietAt (t.walk n (Invocation.start context types)).2)
    (n : Nat) :
    (t.walk n (Invocation.start context types)).2.StandsOnValues l := by
  let v : Invocation H := .start context types
  have hstart : Walk.StandsOnValues l ⟨t.first.map (⟨·, .enter⟩), v⟩ := by
    intro c hc
    obtain ⟨around, hstands, hactive⟩ := h.stands_start (v := v) rfl c hc
    refine ⟨around, hstands, hactive, ?_⟩
    intro s hs
    rw [List.map_eq_nil_iff.1 hactive.symm] at hs
    cases hs
  refine steps_induction (Q := fun w => t.OrderlyAt w ∧ t.QuietAt w) ?_ hstart
    (fun n => ⟨horderly n, hquiet n⟩) n
  intro w next hstands hkept hstep
  exact h.standsOnValues_step hstands hkept.1 hkept.2 hstep

end Stepping

end Trigger

namespace Invocation

variable {v : Invocation H} {around : List OpenSection} {opened : OpenSection}

/-- The innermost active loop is the innermost loop among the sections around. -/
theorem innermostLoop?_eq
    (hactive : v.active = around.map OpenSection.running) :
    v.innermostLoop? = (around.find? OpenSection.isLoop).map OpenSection.id := by
  unfold innermostLoop?
  rw [hactive, List.find?_map, Option.map_map]
  rfl

/-- A loop that is on one of its values gives that value. -/
theorem length_values_loopValue
    {cursor : LoopCursor}
    (hinnermost : v.innermostLoop? = some opened.id)
    (hcursor : v.memory.cursor? opened.id = some cursor)
    (hon : cursor.isOnValue = true) :
    (loopValue.values v).1.length = 1 := by
  have hlt : cursor.index < cursor.values.length := of_decide_eq_true hon
  have hcurrent : cursor.current? = some cursor.values[cursor.index] :=
    List.getElem?_eq_getElem hlt
  have hvalue : v.loopValue? = cursor.current? := by
    unfold loopValue?
    rw [hinnermost]
    simp only [hcursor]
  unfold loopValue
  dsimp only
  rw [hvalue, hcurrent]
  rfl

end Invocation

namespace Assembly

variable {types : TypeSystem} {limits : Report.Limits} {before : Journal H}
  {es : List (Expression H)} {info : MatchInfo}

/-- A jump that is accepted stands in the finished script with the sections around it
that were open when it was put in, and among those there is a loop. -/
theorem placed_of_continue
    (haccepted : (after types limits before).answer (.effect continueBlueprint es info) =
      true)
    (behind : Journal H) :
    ∃ opened, (after types limits before).state.innermostLoop? = some opened ∧
      (Ledger.ofJournal types
          (behind ++ .effect continueBlueprint es info :: before)).layout[
            (after types limits before).nextId.raw]? =
        some ⟨.ofEffect continueEffect, (after types limits before).state.sections⟩ := by
  have hkeeps := keeps_after types limits before
  rw [hkeeps.answer_eq] at haccepted
  obtain ⟨effect, hinit, hlayout⟩ := Ledger.layout_record_effect haccepted
  rw [hkeeps.setting_eq] at hinit
  rw [hkeeps.around_eq] at hlayout
  unfold continueBlueprint setting at hinit
  dsimp only at hinit
  cases hinnermost : (after types limits before).state.innermostLoop? with
  | none =>
      rw [hinnermost] at hinit
      cases hinit
  | some opened =>
      rw [hinnermost] at hinit
      cases hinit
      refine ⟨opened, rfl, ?_⟩
      have hlast :
          (Ledger.ofJournal types (.effect continueBlueprint es info :: before)).layout[
            (after types limits before).nextId.raw]? =
              some ⟨.ofEffect continueEffect,
                (after types limits before).state.sections⟩ := by
        rw [Ledger.ofJournal, hlayout, hkeeps.nextId_eq]
        exact List.getElem?_concat_length
      obtain ⟨later, hlater⟩ :=
        Ledger.isPrefix_layout types behind (.effect continueBlueprint es info :: before)
      rw [← hlater, List.getElem?_append_left (List.getElem?_eq_some_iff.1 hlast).1]
      exact hlast

/-- Inside of a loop the value of the loop is accepted. -/
theorem expression_loopValueBlueprint
    {a : Assembly H} {opened : OpenSection}
    (h : a.state.innermostLoop? = some opened)
    (es : List (Expression H)) (info : MatchInfo) :
    (a.expression loopValueBlueprint es info).1 = some loopValue := by
  have hinit : (loopValueBlueprint (H := H)).init es (a.setting info) =
      .ok loopValue := by
    unfold loopValueBlueprint setting
    simp only [h]
  unfold expression
  rw [hinit]

end Assembly

namespace Trigger

section Jumping

variable {t : Trigger H} {l : Layout H} {c : Cursor} {v : Invocation H}
  {around : List OpenSection} {opened : OpenSection}

/-- A jump goes on with the next iteration of the innermost active loop. -/
theorem LinkedAs.step_of_continue
    (h : t.LinkedAs l)
    (hp : l[c.id.raw]? = some ⟨.ofEffect continueEffect, around⟩)
    (hjump : continueEffect.walk v = (.redirect opened.id true, v.toStore)) :
    t.step ⟨some c, v⟩ =
      some ⟨some ⟨opened.id, .nextIteration⟩, v.unwindTo opened.id⟩ := by
  have hstep : t.step ⟨some c, v⟩ = some (t.stepEffect c.id continueEffect v) := by
    simp only [step, h.node?_eq hp]
    rfl
  rw [hstep, stepEffect, hjump]
  rfl

/-- Around an effect the innermost loop, if it is
a loop over values, is on one of them. -/
theorem LinkedAs.length_values_loopValue
    (h : t.LinkedAs l)
    {e : Effect H} {looped : Option (Expression H)}
    (hp : l[c.id.raw]? = some ⟨.ofEffect e, around⟩)
    (hvalues : Walk.StandsOnValues l ⟨some c, v⟩)
    (hinnermost : around.find? OpenSection.isLoop = some opened)
    (hloop : t.statement? opened.id = some (.ofSection (loop looped))) :
    (loopValue.values v).1.length = 1 := by
  obtain ⟨_, hc, hactive, hvalues⟩ := hvalues c rfl
  rw [hc.eq_of_effect hp] at hactive hvalues
  have hmem := List.mem_of_find?_eq_some hinnermost
  obtain ⟨sec, outer, hsec, _⟩ := h.nested.exists_section (h.nested _ _ hp) hmem
  rw [h.statement?_eq hsec] at hloop
  cases hloop
  obtain ⟨cursor, hcursor, hon⟩ := hvalues opened hmem looped outer hsec
  refine Invocation.length_values_loopValue ?_ hcursor hon
  rw [Invocation.innermostLoop?_eq hactive, hinnermost]
  rfl

end Jumping

/-- Whenever a jump of a finished script is run, it leads to the loop
that was the innermost open one when the jump was put in. If that is a
loop over values, and nothing but such loops changes their states, then
the value of the loop, put in at the same place, is exactly one there. -/
theorem continue_leads_to_innermostLoop
    {types : TypeSystem} {limits : Report.Limits} {before behind : Assembly.Journal H}
    {es : List (Expression H)} {info : MatchInfo} {t : Trigger H}
    (haccepted :
      (Assembly.after types limits before).answer (.effect continueBlueprint es info) =
        true)
    (hbuild : (Assembly.after types limits
      (behind ++ .effect continueBlueprint es info :: before)).build = .ok t)
    (context : Context H) (types' : TypeSystem)
    (horderly : ∀ n, t.OrderlyAt (t.walk n (Invocation.start context types')).2)
    (fuel : Nat) {c : Cursor} {v : Invocation H}
    (hwalk : (t.walk fuel (Invocation.start context types')).2 = ⟨some c, v⟩)
    (hid : c.id = (Assembly.after types limits before).nextId) :
    ∃ opened, (Assembly.after types limits before).state.innermostLoop? = some opened ∧
      t.statement? c.id = some (.ofEffect continueEffect) ∧
      (continueEffect.walk v).1 = .redirect opened.id true ∧
      (∃ v', t.step ⟨some c, v⟩ = some ⟨some ⟨opened.id, .nextIteration⟩, v'⟩) ∧
      ∀ looped, t.statement? opened.id = some (.ofSection (loop looped)) →
        (∀ n, t.QuietAt (t.walk n (Invocation.start context types')).2) →
        ∀ es' info', ∃ e,
          ((Assembly.after types limits before).expression
            loopValueBlueprint es' info').1 =
            some e ∧
          (e.values v).1.length = 1 := by
  obtain ⟨_, hlinked⟩ := Assembly.linkedAs_of_build hbuild
  obtain ⟨opened, hopened, hp⟩ := Assembly.placed_of_continue haccepted behind
  rw [← hid] at hp
  have hfound :
      (Assembly.after types limits before).state.sections.find? OpenSection.isLoop =
        some opened := hopened
  have hstands := hlinked.stands_walk rfl horderly fuel
  rw [hwalk] at hstands
  obtain ⟨around, hc, hactive⟩ := hstands c rfl
  rw [hc.eq_of_effect hp] at hactive
  have hinnermost : v.innermostLoop? = some opened.id := by
    rw [Invocation.innermostLoop?_eq hactive, hfound]
    rfl
  have hjump : continueEffect.walk v = (.redirect opened.id true, v.toStore) := by
    simp only [continueEffect, hinnermost]
  refine ⟨opened, hopened, hlinked.statement?_eq hp, congrArg Prod.fst hjump, ?_, ?_⟩
  · exact ⟨_, hlinked.step_of_continue hp hjump⟩
  · intro looped hloop hquiet es' info'
    refine ⟨loopValue, Assembly.expression_loopValueBlueprint hopened es' info', ?_⟩
    have hvalues := hlinked.standsOnValues_walk horderly hquiet fuel
    rw [hwalk] at hvalues
    exact hlinked.length_values_loopValue hp hvalues hfound hloop

theorem quiet_jumping :
    ∀ node ∈ (Assembly.after TypeSystem.initial Report.Limits.standard jumping).nodes,
      node.statement.Quiet := by
  refine List.forall_mem_cons.2 ⟨.inl ⟨_, rfl⟩, List.forall_mem_cons.2 ⟨?_, ?_⟩⟩
  · exact Statement.quiet_conditional _
  · exact List.forall_mem_singleton.2 Statement.quiet_continueEffect

/-- Two steps lead to the jump in the condition in the loop; from there it goes back to
the loop, which is on its first value. -/
theorem continue_leads_to_innermostLoop_jumping :
    ∃ t c v opened looped,
      (Assembly.after TypeSystem.initial Report.Limits.standard jumping).build = .ok t ∧
      (t.walk 2 (Invocation.start ⟨0, "now", ()⟩ TypeSystem.initial)).2 = ⟨some c, v⟩ ∧
      c.id = (Assembly.after TypeSystem.initial Report.Limits.standard looping).nextId ∧
      (Assembly.after TypeSystem.initial Report.Limits.standard
        looping).state.innermostLoop? =
        some opened ∧
      t.statement? c.id = some (.ofEffect continueEffect) ∧
      t.statement? opened.id = some (.ofSection (loop looped)) ∧
      (continueEffect.walk v).1 = .redirect opened.id true ∧
      (∃ v', t.step ⟨some c, v⟩ = some ⟨some ⟨opened.id, .nextIteration⟩, v'⟩) ∧
      ∃ e,
        ((Assembly.after TypeSystem.initial Report.Limits.standard looping).expression
          loopValueBlueprint [] ⟨0, 0⟩).1 = some e ∧
        (e.values v).1.length = 1 := by
  have haccepted :
      (Assembly.after TypeSystem.initial Report.Limits.standard looping).answer
        (.effect continueBlueprint [] ⟨0, 0⟩) = true := rfl
  have hbuild : (Assembly.after TypeSystem.initial Report.Limits.standard
      ([.closeSection, .closeSection] ++
        .effect continueBlueprint [] ⟨0, 0⟩ :: looping)).build =
        .ok _ := rfl
  obtain ⟨opened, hopened, hstatement, hjump, hstep, hvalue⟩ :=
    continue_leads_to_innermostLoop haccepted hbuild ⟨0, "now", ()⟩ TypeSystem.initial
      (fun n => orderlyAt_of_statements orderly_jumping _) 2 rfl rfl
  obtain rfl : _ = opened := Option.some.inj hopened
  exact ⟨_, _, _, _, _, hbuild, rfl, rfl, hopened, hstatement, rfl, hjump, hstep,
    hvalue _ rfl (fun n => quietAt_of_statements quiet_jumping _) [] ⟨0, 0⟩⟩

end Trigger

end Script
end TriggerScript
