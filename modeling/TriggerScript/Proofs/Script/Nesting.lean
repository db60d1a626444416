import TriggerScript.Proofs.Script.Conduct
import TriggerScript.Proofs.Script.Linking
import TriggerScript.Script.Walk

/-!
# Active sections

The sections that are active in a walk are those around the statement whose turn it is. A
step only enters the section at the cursor, leaves it, or drops sections inside of
another one that is around, as long as sections and effects keep to the structure of the
script. This is what each step preserves, and with it every walk.
-/

namespace TriggerScript
namespace Script

variable {H : Host}

/-- The section once its body is running. -/
def OpenSection.running
    (s : OpenSection) : ActiveSection :=
  ⟨s.id, s.isLoop⟩

namespace Invocation

variable {v : Invocation H} {around outer : List OpenSection} {s : OpenSection}

theorem isActive_iff
    (hactive : v.active = around.map OpenSection.running)
    (id : StatementId) :
    v.isActive id = true ↔ ∃ s ∈ around, s.id = id := by
  simp [isActive, hactive, OpenSection.running]

theorem memory_leave
    (v : Invocation H) (id : StatementId) :
    (v.leave id).memory = v.memory := by
  unfold leave
  split
  · split <;> rfl
  · rfl

/-- Going back to a section drops the ones inside
of it, and keeps the states of the others. -/
theorem unwound_of_suffix
    (hpairwise : around.Pairwise fun s s' => s'.id.raw < s.id.raw)
    (hsuffix : s :: outer <:+ around)
    (memory : SectionMemory H) :
    ∃ left, unwound s.id (around.map OpenSection.running) memory =
        ((s :: outer).map OpenSection.running, left) ∧
      ∀ s' ∈ s :: outer, left.get? s'.id = memory.get? s'.id := by
  induction around generalizing memory with
  | nil =>
      cases List.suffix_nil.1 hsuffix
  | cons inner rest ih =>
      obtain ⟨hinner, hrest⟩ := List.pairwise_cons.1 hpairwise
      rcases List.suffix_cons_iff.1 hsuffix with hsame | hsuffix
      · cases hsame
        exact ⟨memory, if_pos rfl, fun _ _ => rfl⟩
      · obtain ⟨left, hleft, hkept⟩ := ih hrest hsuffix (memory.erase inner.id)
        have hne : ∀ s' ∈ s :: outer, s'.id ≠ inner.id := by
          intro s' hs' hsame
          have hlt := hinner s' (hsuffix.subset hs')
          rw [hsame] at hlt
          exact Nat.lt_irrefl _ hlt
        refine ⟨left, ?_, ?_⟩
        · rw [← hleft]
          exact if_neg fun hsame => hne s List.mem_cons_self hsame.symm
        · intro s' hs'
          rw [hkept s' hs', SectionMemory.get?_erase_of_ne (hne s' hs')]

end Invocation

namespace Layout

/-- The sections that are active at a cursor: the ones around the statement and, if
control comes back to the statement, a section, that section too. -/
inductive Stands
    (l : Layout H) : Cursor → List OpenSection → Prop
  | entered
      {id : StatementId} {p : Placed H}
      (hp : l[id.raw]? = some p) :
      Stands l ⟨id, .enter⟩ p.around
  | back
      {id : StatementId} {s : Section H} {around : List OpenSection} {entry : Entry}
      (hentry : entry ≠ .enter)
      (hp : l[id.raw]? = some ⟨.ofSection s, around⟩) :
      Stands l ⟨id, entry⟩ (⟨id, s.isLoop, s.describe false⟩ :: around)

section Stands

variable {l : Layout H} {c : Cursor} {around outer : List OpenSection}

/-- Control never comes back to an effect. -/
theorem Stands.eq_of_effect
    {e : Effect H}
    (h : l.Stands c around)
    (hp : l[c.id.raw]? = some ⟨.ofEffect e, outer⟩) :
    around = outer := by
  cases h with
  | entered hq =>
      cases hp.symm.trans hq
      rfl
  | back _ hq =>
      cases hp.symm.trans hq

theorem Stands.suffix
    {p : Placed H}
    (h : l.Stands c around)
    (hp : l[c.id.raw]? = some p) :
    p.around <:+ around := by
  cases h with
  | entered hq =>
      cases hp.symm.trans hq
      exact List.suffix_rfl
  | back _ hq =>
      cases hp.symm.trans hq
      exact List.suffix_cons _ _

end Stands

end Layout

namespace Walk

/-- Unless a walk has ended, the active sections are those at its cursor. -/
def Stands
    (l : Layout H) (w : Walk H) : Prop :=
  ∀ c, w.cursor = some c →
    ∃ around, l.Stands c around ∧ w.invocation.active = around.map OpenSection.running

/-- Unless a walk has ended, it goes on inside of some of
the given sections, with the states that these had. -/
def GoesOn
    (l : Layout H) (memory : SectionMemory H) (inside : List OpenSection)
    (w : Walk H) : Prop :=
  ∀ c, w.cursor = some c →
    ∃ around, l.Stands c around ∧
      around <:+ inside ∧
      w.invocation.active = around.map OpenSection.running ∧
      ∀ s ∈ around, w.invocation.memory.get? s.id = memory.get? s.id

theorem GoesOn.stands
    {l : Layout H} {memory : SectionMemory H} {inside : List OpenSection} {w : Walk H}
    (h : w.GoesOn l memory inside) :
    w.Stands l := by
  intro c hc
  obtain ⟨around, hstands, _, hactive, _⟩ := h c hc
  exact ⟨around, hstands, hactive⟩

end Walk

namespace Trigger

/-- The chain of the sections around a statement, the innermost first. -/
inductive Enclosed
    (t : Trigger H) : StatementId → List StatementId → Prop
  | top
      {id : StatementId}
      (h : t.parent? id = none) :
      Enclosed t id []
  | inside
      {id parent : StatementId} {outer : List StatementId}
      (h : t.parent? id = some parent)
      (houter : Enclosed t parent outer) :
      Enclosed t id (parent :: outer)

def isSection
    (t : Trigger H) (id : StatementId) : Bool :=
  match t.node? id with
  | some ⟨.ofSection _, _, _, _⟩ => true
  | _ => false

/-- Whether the statement whose turn it is keeps to the structure of the script: a
section goes on with its body, with what comes after it or with nothing, and an effect
only jumps to a section that is active. -/
def OrderlyAt
    (t : Trigger H) (w : Walk H) : Prop :=
  ∀ c node, w.cursor = some c → t.node? c.id = some node →
    match node.statement with
    | .ofEffect e =>
        ∀ target skipToNext, (e.walk w.invocation).1 = .redirect target skipToNext →
          w.invocation.isActive target = true
    | .ofSection s =>
        (s.walk w.invocation (t.place c.id node) c.entry).1 ∈
          [node.body, t.successor? c.id, none]

/-- What a step does: the effect at the cursor is run and the walk
goes on inside of the sections around it, or the section at the
cursor is asked and its body is run, or the section is left. -/
inductive Proceeds
    (t : Trigger H) (l : Layout H) (c : Cursor) (v : Invocation H) (next : Walk H) : Prop
  | effect
      {e : Effect H} {around : List OpenSection}
      (hp : l[c.id.raw]? = some ⟨.ofEffect e, around⟩)
      (hnext : next.GoesOn l (e.walk v).2.memory around)
  | body
      {s : Section H} {around : List OpenSection} {first : StatementId}
      (hp : l[c.id.raw]? = some ⟨.ofSection s, around⟩)
      (hfirst : (l.children (some c.id)).head? = some first)
      (hbody : (s.walk v
        ⟨c.id, (l.children (some c.id)).head?, t.successor? c.id⟩ c.entry).1 =
        some first)
      (hnext : next.GoesOn l
        (s.walk v ⟨c.id, (l.children (some c.id)).head?, t.successor? c.id⟩
          c.entry).2.memory
        (⟨c.id, s.isLoop, s.describe false⟩ :: around))
  | past
      {s : Section H} {around : List OpenSection}
      (hp : l[c.id.raw]? = some ⟨.ofSection s, around⟩)
      (hnext : next.GoesOn l
        (s.walk v ⟨c.id, (l.children (some c.id)).head?, t.successor? c.id⟩
          c.entry).2.memory
        around)

theorem Proceeds.stands
    {t : Trigger H} {l : Layout H} {c : Cursor} {v : Invocation H} {next : Walk H}
    (h : t.Proceeds l c v next) :
    next.Stands l := by
  cases h with
  | effect _ hnext =>
      exact hnext.stands
  | body _ _ _ hnext =>
      exact hnext.stands
  | past _ hnext =>
      exact hnext.stands

section Stepping

variable {t : Trigger H} {l : Layout H} {n : Nat} {id : StatementId} {p : Placed H}
  {v : Invocation H} {around : List OpenSection} {s : OpenSection} {c : Cursor}

/-- Control goes back to a section around. -/
theorem goesOn_unwindTo
    (hnested : l.Nested)
    (hadmits : l.Admits n around)
    (hactive : v.active = around.map OpenSection.running)
    (hs : s ∈ around)
    {entry : Entry}
    (hentry : entry ≠ .enter) :
    Walk.GoesOn l v.memory around ⟨some ⟨s.id, entry⟩, v.unwindTo s.id⟩ := by
  obtain ⟨sec, outer, hsec, hshape, hsuffix⟩ := hnested.exists_section hadmits hs
  obtain ⟨left, hleft, hkept⟩ :=
    Invocation.unwound_of_suffix (hnested.pairwise hadmits).2 hsuffix v.memory
  rw [← hactive] at hleft
  intro c hc
  cases hc
  refine ⟨s :: outer, ?_, hsuffix, ?_, ?_⟩
  · have hback := Layout.Stands.back (l := l) hentry hsec
    rwa [← hshape] at hback
  · exact congrArg Prod.fst hleft
  · intro s' hs'
    have hmemory : (v.unwindTo s.id).memory = left := congrArg Prod.snd hleft
    rw [hmemory]
    exact hkept s' hs'

/-- Behind a statement control comes to the next
one of its body, or back to the section around. -/
theorem LinkedAs.goesOn_successor
    (h : t.LinkedAs l)
    (hp : l[id.raw]? = some p)
    (hactive : v.active = p.around.map OpenSection.running) :
    Walk.GoesOn l v.memory p.around (arrive? (t.successor? id) v) := by
  have hadmits := h.nested _ p hp
  rw [h.successor?_eq hp]
  cases hnext : l.sibling? id.raw p with
  | some next =>
      obtain ⟨hlt, q, hq, hparent⟩ := Layout.sibling?_spec hnext
      have haround := h.nested.around_eq_of_parent? hp hq hparent
      have hinactive : ¬ v.isActive next = true := by
        rw [Invocation.isActive_iff hactive]
        rintro ⟨s, hs, rfl⟩
        have := (h.nested.pairwise hadmits).1 s hs
        omega
      have harrive : arrive? ((some next).or p.parent?) v = ⟨some ⟨next, .enter⟩, v⟩ :=
        if_neg hinactive
      rw [harrive]
      intro c hc
      cases hc
      refine ⟨p.around, ?_, List.suffix_rfl, hactive, fun _ _ => rfl⟩
      rw [← haround]
      exact .entered hq
  | none =>
      cases haround : p.around with
      | nil =>
          intro c hc
          rw [Placed.parent?, haround] at hc
          cases hc
      | cons s outer =>
          rw [haround] at hadmits hactive
          have hs : s ∈ s :: outer := List.mem_cons_self
          have hparent : p.parent? = some s.id := by
            rw [Placed.parent?, haround]
            rfl
          have hisActive := (Invocation.isActive_iff hactive s.id).2 ⟨s, hs, rfl⟩
          have harrive : arrive? ((none : Option StatementId).or p.parent?) v =
              ⟨some ⟨s.id, .resume⟩, v.unwindTo s.id⟩ := by
            rw [hparent]
            exact if_pos hisActive
          rw [harrive]
          exact goesOn_unwindTo h.nested hadmits hactive hs (by decide)

/-- An effect goes on inside of the sections around it. -/
theorem LinkedAs.goesOn_stepEffect
    (h : t.LinkedAs l)
    {e : Effect H}
    (hp : l[id.raw]? = some ⟨.ofEffect e, around⟩)
    (hactive : v.active = around.map OpenSection.running)
    (horderly : ∀ target skipToNext, (e.walk v).1 = .redirect target skipToNext →
      v.isActive target = true) :
    (t.stepEffect id e v).GoesOn l (e.walk v).2.memory around := by
  unfold stepEffect
  cases hwalk : e.walk v with
  | mk step store =>
      have hactive' : (v.withStore store).active = around.map OpenSection.running :=
        hactive
      cases step with
      | next =>
          exact h.goesOn_successor hp hactive'
      | redirect target skipToNext =>
          have hisActive := horderly target skipToNext (congrArg Prod.fst hwalk)
          obtain ⟨s, hs, rfl⟩ := (Invocation.isActive_iff hactive target).1 hisActive
          have hentry :
              (if skipToNext then Entry.nextIteration else .resume) ≠ .enter := by
            cases skipToNext <;> decide
          exact goesOn_unwindTo h.nested (h.nested _ _ hp) hactive' hs hentry
      | halt =>
          intro c hc
          cases hc

/-- The body of a section starts with a statement that has the section around it. -/
theorem LinkedAs.goesOn_body
    (h : t.LinkedAs l)
    {s : Section H} {first : StatementId}
    (hp : l[id.raw]? = some ⟨.ofSection s, around⟩)
    (hfirst : first ∈ l.children (some id))
    (hactive : v.active =
      (⟨id, s.isLoop, s.describe false⟩ :: around : List OpenSection).map
        OpenSection.running) :
    Walk.GoesOn l v.memory (⟨id, s.isLoop, s.describe false⟩ :: around)
      ⟨some ⟨first, .enter⟩, v⟩ := by
  obtain ⟨q, hq, hparent⟩ := Layout.mem_children_iff.1 hfirst
  obtain ⟨sec, hsec, haround⟩ := h.nested.around_of_parent? hp hq hparent
  cases hsec
  intro c hc
  cases hc
  refine ⟨_, ?_, List.suffix_rfl, hactive, fun _ _ => rfl⟩
  have hentered := Layout.Stands.entered hq
  rwa [haround] at hentered

/-- Whether it was entered or control came back to
it, a section is not active once it is left. -/
theorem active_leave
    (hnested : l.Nested)
    (hstands : l.Stands c around)
    (hp : l[c.id.raw]? = some p)
    (hactive : v.active = around.map OpenSection.running) :
    (v.leave c.id).active = p.around.map OpenSection.running := by
  unfold Invocation.leave
  rw [hactive]
  cases hstands with
  | @entered id _ hq =>
      cases hp.symm.trans hq
      have hbefore := (hnested.pairwise (hnested _ p hp)).1
      cases haround : p.around with
      | nil =>
          rw [haround] at hactive
          exact hactive
      | cons s outer =>
          have hlt : s.id.raw < id.raw := hbefore s (haround ▸ List.mem_cons_self)
          have hne : s.running.id ≠ id := by
            rintro rfl
            exact Nat.lt_irrefl _ hlt
          rw [List.map_cons]
          dsimp only
          rw [if_neg hne, hactive, haround, List.map_cons]
  | back hentry hq =>
      cases hp.symm.trans hq
      exact congrArg Invocation.active (if_pos rfl)

/-- Whether it is entered or was active before, a
section is active once its body is run. -/
theorem active_push
    {sec : Section H} {outer : List OpenSection}
    (hstands : l.Stands c around)
    (hp : l[c.id.raw]? = some ⟨.ofSection sec, outer⟩)
    (hactive : v.active = around.map OpenSection.running) :
    (if c.entry = .enter then v.push ⟨c.id, sec.isLoop⟩ else v).active =
      (⟨c.id, sec.isLoop, sec.describe false⟩ :: outer : List OpenSection).map
        OpenSection.running := by
  cases hstands with
  | entered hq =>
      cases hp.symm.trans hq
      rw [if_pos rfl]
      exact congrArg _ hactive
  | back hentry hq =>
      cases hp.symm.trans hq
      rw [if_neg hentry]
      exact hactive

theorem stepSection_of_body
    {node : Node H} {sec : Section H} {first : StatementId} {store : Store H}
    (hbody : node.body = some first)
    (hwalk : sec.walk v (t.place c.id node) c.entry = (some first, store)) :
    t.stepSection c node sec v =
      ⟨some ⟨first, .enter⟩,
        if c.entry = .enter then (v.withStore store).push ⟨c.id, sec.isLoop⟩
        else v.withStore store⟩ := by
  unfold stepSection
  rw [hwalk]
  exact if_pos (by simp [hbody])

theorem stepSection_of_ne_body
    {node : Node H} {sec : Section H} {target : Option StatementId} {store : Store H}
    (hne : target = node.body → target = none)
    (hwalk : sec.walk v (t.place c.id node) c.entry = (target, store)) :
    t.stepSection c node sec v = arrive? target ((v.withStore store).leave c.id) := by
  unfold stepSection
  rw [hwalk]
  refine if_neg ?_
  rw [Bool.and_eq_true, decide_eq_true_eq]
  rintro ⟨hsome, hsame⟩
  rw [hne hsame] at hsome
  cases hsome

/-- A section goes on with its body, or is left. -/
theorem LinkedAs.proceeds_stepSection
    (h : t.LinkedAs l)
    {sec : Section H} {outer : List OpenSection}
    (hstands : l.Stands c around)
    (hp : l[c.id.raw]? = some ⟨.ofSection sec, outer⟩)
    (hactive : v.active = around.map OpenSection.running)
    (horderly : (sec.walk v
      ⟨c.id, (l.children (some c.id)).head?, t.successor? c.id⟩ c.entry).1 ∈
      [(l.children (some c.id)).head?, t.successor? c.id, none]) :
    t.Proceeds l c v
      (t.stepSection c (l.node c.id.raw ⟨.ofSection sec, outer⟩) sec v) := by
  cases hwalk :
    sec.walk v ⟨c.id, (l.children (some c.id)).head?, t.successor? c.id⟩ c.entry with
  | mk target store =>
      rw [hwalk] at horderly
      have hactive' : (v.withStore store).active = around.map OpenSection.running :=
        hactive
      have hmemory := congrArg (fun r => r.2.memory) hwalk
      dsimp only at horderly hmemory
      by_cases hfirst : ∃ first, target = some first ∧
        (l.children (some c.id)).head? = some first
      · obtain ⟨first, rfl, hfirst⟩ := hfirst
        have hmem := List.mem_of_mem_head? hfirst
        have hgoes := h.goesOn_body hp hmem (active_push hstands hp hactive')
        rw [stepSection_of_body hfirst hwalk]
        refine .body hp hfirst (congrArg Prod.fst hwalk) ?_
        have hpushed :
            (if c.entry = .enter then (v.withStore store).push ⟨c.id, sec.isLoop⟩
              else v.withStore store).memory = store.memory := by
          split <;> rfl
        rw [hpushed] at hgoes
        rw [hmemory]
        exact hgoes
      · have hne : target = (l.children (some c.id)).head? → target = none := by
          intro hsame
          cases htarget : target with
          | none =>
              rfl
          | some first =>
              rw [htarget] at hsame
              exact absurd ⟨first, htarget, hsame.symm⟩ hfirst
        rw [stepSection_of_ne_body hne hwalk]
        refine .past hp ?_
        rw [hmemory]
        simp only [List.mem_cons, List.not_mem_nil, or_false] at horderly
        rcases horderly with hbody | hafter | hnone
        · rw [hne hbody]
          intro c hc
          cases hc
        · have hgoes := h.goesOn_successor hp (active_leave h.nested hstands hp hactive')
          rw [Invocation.memory_leave] at hgoes
          rw [hafter]
          exact hgoes
        · rw [hnone]
          intro c hc
          cases hc

/-- A step keeps to the structure of the script if the statement at the cursor does. -/
theorem LinkedAs.proceeds
    (h : t.LinkedAs l)
    {next : Walk H}
    (hstands : l.Stands c around)
    (hactive : v.active = around.map OpenSection.running)
    (horderly : t.OrderlyAt ⟨some c, v⟩)
    (hstep : t.step ⟨some c, v⟩ = some next) :
    t.Proceeds l c v next := by
  obtain ⟨⟨statement, outer⟩, hp⟩ : ∃ p, l[c.id.raw]? = some p := by
    cases hstands with
    | entered hp =>
        exact ⟨_, hp⟩
    | back _ hp =>
        exact ⟨_, hp⟩
  have hnode := h.node?_eq hp
  have hkept := horderly c _ rfl hnode
  unfold step at hstep
  dsimp only at hstep
  rw [hnode] at hstep
  cases statement with
  | ofEffect e =>
      cases hstep
      rw [hstands.eq_of_effect hp] at hactive
      exact .effect hp (h.goesOn_stepEffect hp hactive hkept)
  | ofSection sec =>
      cases hstep
      exact h.proceeds_stepSection hstands hp hactive hkept

/-- One step keeps the active sections to those at the cursor. -/
theorem LinkedAs.stands_step
    (h : t.LinkedAs l)
    {w next : Walk H}
    (hstands : w.Stands l)
    (horderly : t.OrderlyAt w)
    (hstep : t.step w = some next) :
    next.Stands l := by
  obtain ⟨cursor, v⟩ := w
  cases cursor with
  | none =>
      cases hstep
  | some c =>
      obtain ⟨around, hc, hactive⟩ := hstands c rfl
      exact (h.proceeds hc hactive horderly hstep).stands

end Stepping

section Running

variable {t : Trigger H} {l : Layout H}

theorem steps_snd
    (t : Trigger H) (n : Nat) (w : Walk H) (taken : Nat) :
    (t.steps n w taken).2 = (t.steps n w 0).2 := by
  induction n generalizing w taken with
  | zero =>
      rfl
  | succ n ih =>
      unfold steps
      cases t.step w with
      | none =>
          rfl
      | some next =>
          exact (ih next (taken + 1)).trans (ih next 1).symm

/-- What holds at the start, and is preserved by every step from where another condition
holds, holds all along a walk that meets this condition all along. -/
theorem steps_induction
    {P Q : Walk H → Prop}
    (hstep : ∀ w next, P w → Q w → t.step w = some next → P next)
    {w : Walk H}
    (hstart : P w)
    (halong : ∀ n, Q (t.steps n w 0).2)
    (n : Nat) :
    P (t.steps n w 0).2 := by
  induction n generalizing w with
  | zero =>
      exact hstart
  | succ n ih =>
      unfold steps
      cases hw : t.step w with
      | none =>
          exact hstart
      | some next =>
          dsimp only
          rw [steps_snd]
          refine ih (hstep w next hstart (halong 0) hw) ?_
          intro m
          have hlater := halong (m + 1)
          rw [steps, hw] at hlater
          dsimp only at hlater
          rwa [steps_snd] at hlater

theorem LinkedAs.stands_start
    (h : t.LinkedAs l)
    {v : Invocation H}
    (hactive : v.active = []) :
    Walk.Stands l ⟨t.first.map (⟨·, .enter⟩), v⟩ := by
  intro c hc
  obtain ⟨first, hfirst, rfl⟩ := Option.map_eq_some_iff.1 hc
  rw [h.first] at hfirst
  obtain ⟨p, hp, hparent⟩ := Layout.mem_children_iff.1 (List.mem_of_mem_head? hfirst)
  have haround : p.around = [] := by
    unfold Placed.parent? at hparent
    rwa [Option.map_eq_none_iff, List.head?_eq_none_iff] at hparent
  refine ⟨p.around, .entered hp, ?_⟩
  rw [haround]
  exact hactive

theorem LinkedAs.stands_walk
    (h : t.LinkedAs l)
    {v : Invocation H}
    (hactive : v.active = [])
    (horderly : ∀ n, t.OrderlyAt (t.walk n v).2)
    (n : Nat) :
    (t.walk n v).2.Stands l := by
  refine steps_induction ?_ (h.stands_start hactive) horderly n
  intro w next hstands hkept hstep
  exact h.stands_step hstands hkept hstep

/-- The chain of the sections around a statement is the one that the layout has. -/
theorem LinkedAs.enclosed
    (h : t.LinkedAs l)
    {id : StatementId} {p : Placed H}
    (hp : l[id.raw]? = some p) :
    t.Enclosed id (p.around.map OpenSection.id) := by
  have hparent := h.parent?_eq hp
  unfold Placed.parent? at hparent
  induction haround : p.around generalizing id p with
  | nil =>
      rw [haround] at hparent
      exact .top hparent
  | cons s outer ih =>
      rw [haround] at hparent
      obtain ⟨_, sec, hsec, _⟩ := (h.nested _ p hp).chained s outer haround
      exact .inside hparent (ih hsec (h.parent?_eq hsec) rfl)

end Running

theorem orderlyAt_of_statements
    {t : Trigger H}
    (h : ∀ node ∈ t.nodes, node.statement.Orderly)
    (w : Walk H) :
    t.OrderlyAt w := by
  intro c node _ hnode
  have hkept := h node (List.mem_of_getElem? hnode)
  cases hstatement : node.statement with
  | ofEffect e =>
      rw [hstatement] at hkept
      exact hkept w.invocation
  | ofSection s =>
      rw [hstatement] at hkept
      exact hkept w.invocation (t.place c.id node) c.entry

/-- In every walk of a finished script whose statements keep to its
structure, the active sections are the chain of those around the statement
whose turn it is, and in front of them that statement itself if control
comes back to it, a section. The innermost section comes first. -/
theorem activeIds_eq_enclosing
    {types : TypeSystem} {limits : Report.Limits}
    {j : Assembly.Journal H} {t : Trigger H}
    (hbuild : (Assembly.after types limits j).build = .ok t)
    (context : Context H) (types' : TypeSystem)
    (horderly : ∀ n, t.OrderlyAt (t.walk n (Invocation.start context types')).2)
    (fuel : Nat) {c : Cursor} {v : Invocation H}
    (hwalk : (t.walk fuel (Invocation.start context types')).2 = ⟨some c, v⟩) :
    ∃ outer, t.Enclosed c.id outer ∧
      v.activeIds =
        if t.isSection c.id = true ∧ c.entry ≠ .enter then c.id :: outer else outer := by
  obtain ⟨_, hlinked⟩ := Assembly.linkedAs_of_build hbuild
  have hstands := hlinked.stands_walk rfl horderly fuel
  rw [hwalk] at hstands
  obtain ⟨around, hstands, hactive⟩ := hstands c rfl
  have hids : ∀ sections : List OpenSection,
      (sections.map OpenSection.running).map ActiveSection.id =
        sections.map OpenSection.id := by
    intro sections
    rw [List.map_map]
    rfl
  rw [Invocation.activeIds, hactive, hids]
  cases hstands with
  | entered hp =>
      refine ⟨_, hlinked.enclosed hp, ?_⟩
      rw [if_neg fun h => h.2 rfl]
  | @back id s outer entry hentry hp =>
      have hsection : t.isSection id = true := by
        unfold isSection
        rw [hlinked.node?_eq hp]
        rfl
      refine ⟨_, hlinked.enclosed hp, ?_⟩
      rw [if_pos ⟨hsection, hentry⟩]
      rfl

section Jumping

/-- A host without anything of its own. -/
def emptyHost : Host := ⟨Unit, Unit⟩

/-- A loop over two values, and in it a condition that holds, both still open. -/
def looping : Assembly.Journal emptyHost :=
  [.openSection conditionalBlueprint [literal [⟨TypeId.object, .boolean true⟩]] ⟨0, 0⟩,
   .openSection loopBlueprint
     [literal [⟨TypeId.object, .integer 1⟩, ⟨TypeId.object, .integer 2⟩]] ⟨0, 0⟩]

/-- A jump to the next iteration in the condition in the loop. -/
def jumping : Assembly.Journal emptyHost :=
  [.closeSection, .closeSection] ++ .effect continueBlueprint [] ⟨0, 0⟩ :: looping

theorem orderly_jumping :
    ∀ node ∈ (Assembly.after TypeSystem.initial Report.Limits.standard jumping).nodes,
      node.statement.Orderly := by
  refine List.forall_mem_cons.2
    ⟨Statement.orderly_loop _, List.forall_mem_cons.2 ⟨?_, ?_⟩⟩
  · exact Statement.orderly_conditional _
  · exact List.forall_mem_singleton.2 Statement.orderly_continueEffect

/-- Three steps lead into the loop and the
condition, and with the jump back to the loop. -/
theorem activeIds_eq_enclosing_jumping :
    ∃ t v, (Assembly.after TypeSystem.initial Report.Limits.standard jumping).build =
        .ok t ∧
      (t.walk 3 (Invocation.start ⟨0, "now", ()⟩ TypeSystem.initial)).2 =
        ⟨some ⟨⟨0⟩, .nextIteration⟩, v⟩ ∧
      ∃ outer, t.Enclosed ⟨0⟩ outer ∧
        v.activeIds =
          if t.isSection ⟨0⟩ = true ∧ Entry.nextIteration ≠ .enter then ⟨0⟩ :: outer
          else outer := by
  have hbuild :
      (Assembly.after TypeSystem.initial Report.Limits.standard jumping).build = .ok _ :=
    rfl
  refine ⟨_, _, hbuild, rfl, ?_⟩
  refine activeIds_eq_enclosing hbuild ⟨0, "now", ()⟩ TypeSystem.initial ?_ 3 rfl
  intro n
  exact orderlyAt_of_statements orderly_jumping _

end Jumping

end Trigger

end Script
end TriggerScript
