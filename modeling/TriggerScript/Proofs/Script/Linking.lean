import TriggerScript.Proofs.Script.Ledger
import TriggerScript.Proofs.Script.Placement

/-!
# Assemblies link what their ledgers list

An assembly keeps its statements with their links: every new one is linked to the last
statement of its body, or else to the section around it. The links are those that can be
read off the layout of the ledger, and the assembly answers every call as the ledger
does.
-/

namespace TriggerScript
namespace Script

variable {H : Host}

open Report

namespace Layout

/-- The bodies that are open: those of the open sections, and the top level. -/
def bodies
    (around : List OpenSection) : List (Option StatementId) :=
  (around.map fun s => some s.id) ++ [none]

theorem getElem?_nodes
    (l : Layout H) (i : Nat) :
    l.nodes[i]? = l[i]?.map (l.node i) := by
  exact List.getElem?_mapIdx

section Append

variable {l : Layout H} {p q : Placed H} {i : Nat} {last : StatementId}

/-- A new statement is the next one of the statements of its body that have no next one
yet, and the first one of its body if that was empty. -/
theorem node_append
    (hi : i < l.length)
    (p q : Placed H) :
    (l ++ [p]).node i q =
      { l.node i q with
        next := (l.sibling? i q).or
          (if p.parent? = q.parent? then some ⟨l.length⟩ else none)
        body := (l.children (some ⟨i⟩)).head?.or
          (if p.parent? = some ⟨i⟩ then some ⟨l.length⟩ else none) } := by
  unfold node sibling?
  simp only [children_append, List.find?_append, List.head?_append]
  congr 2
  · by_cases hparent : p.parent? = q.parent? <;> simp [hparent, hi]
  · split <;> rfl

/-- Nothing belongs to the body of a statement that is still to come. -/
theorem Nested.children_length
    (hnested : l.Nested) :
    l.children (some ⟨l.length⟩) = [] := by
  rw [List.eq_nil_iff_forall_not_mem]
  intro id hid
  obtain ⟨q, hq, hparent⟩ := mem_children_iff.1 hid
  have hlt := hnested.parent?_lt hq hparent
  have hlength := lt_length_of_mem_children hid
  simp only at hlt
  omega

/-- The statement that was put in last has no next one and an empty body. -/
theorem node_length
    (hnested : l.Nested)
    (hparent : p.parent? ≠ some ⟨l.length⟩) :
    (l ++ [p]).node l.length p = ⟨p.statement, none, p.parent?, none⟩ := by
  have hnext : (l ++ [p]).sibling? l.length p = none := by
    refine sibling?_eq_none ?_
    intro other hother
    have hlt := lt_length_of_mem_children hother
    rw [List.length_append, List.length_singleton] at hlt
    omega
  have hbody : (l ++ [p]).children (some ⟨l.length⟩) = [] := by
    rw [children_append, hnested.children_length, if_neg hparent, List.append_nil]
  unfold node
  rw [hnext, hbody]
  rfl

theorem nodes_append
    (hnested : l.Nested)
    (hparent : p.parent? ≠ some ⟨l.length⟩) :
    (l ++ [p]).nodes =
      l.mapIdx (l ++ [p]).node ++ [⟨p.statement, none, p.parent?, none⟩] := by
  unfold nodes
  rw [List.mapIdx_append, ← node_length hnested hparent]
  simp

/-- Positions that are dealt with alike but for one are modified in that one. -/
theorem mapIdx_eq_modify
    {α β : Type} {xs : List α} {f g : Nat → α → β} {h : β → β} {k : Nat}
    (heq : ∀ i x, xs[i]? = some x → f i x = if k = i then h (g i x) else g i x) :
    xs.mapIdx f = (xs.mapIdx g).modify k h := by
  refine List.ext_getElem? fun i => ?_
  rw [List.getElem?_modify, List.getElem?_mapIdx, List.getElem?_mapIdx]
  cases hx : xs[i]? with
  | none =>
      rfl
  | some x =>
      simp [heq i x hx]

/-- A statement has a next one unless it is the last one of its body. -/
theorem sibling?_isSome
    (hq : l[i]? = some q)
    (hlast : (l.children q.parent?).getLast? = some last)
    (hne : last.raw ≠ i) :
    (l.sibling? i q).isSome = true := by
  cases h : l.sibling? i q with
  | some next =>
      rfl
  | none =>
      obtain ⟨before, hsplit⟩ := List.getLast?_eq_some_iff.1 hlast
      have hno := List.find?_eq_none.1 h last (List.mem_of_getLast? hlast)
      have hmem : (⟨i⟩ : StatementId) ∈ l.children q.parent? :=
        mem_children_iff.2 ⟨q, hq, rfl⟩
      have hsorted := pairwise_children l q.parent?
      rw [hsplit] at hmem hsorted
      rcases List.mem_append.1 hmem with hbefore | hsame
      · have hlt := (List.pairwise_append.1 hsorted).2.2 _ hbefore last
          List.mem_cons_self
        simp [hlt] at hno
      · rw [← List.mem_singleton.1 hsame] at hne
        exact absurd rfl hne

theorem sibling?_last
    (hlast : (l.children q.parent?).getLast? = some last) :
    l.sibling? last.raw q = none := by
  refine sibling?_eq_none ?_
  intro other hother
  obtain ⟨before, hsplit⟩ := List.getLast?_eq_some_iff.1 hlast
  have hsorted := pairwise_children l q.parent?
  rw [hsplit] at hother hsorted
  rcases List.mem_append.1 hother with hbefore | hsame
  · exact Nat.le_of_lt
      ((List.pairwise_append.1 hsorted).2.2 _ hbefore last List.mem_cons_self)
  · exact Nat.le_of_eq (congrArg StatementId.raw (List.mem_singleton.1 hsame))

/-- A new statement behind others of its body is linked to the last one of them. -/
theorem mapIdx_node_of_last
    (hlast : (l.children p.parent?).getLast? = some last) :
    l.mapIdx (l ++ [p]).node =
      l.nodes.modify last.raw fun n => { n with next := some ⟨l.length⟩ } := by
  refine mapIdx_eq_modify ?_
  intro i q hq
  have hi : i < l.length := (List.getElem?_eq_some_iff.1 hq).1
  have hbody : (l.children (some ⟨i⟩)).head?.or
      (if p.parent? = some ⟨i⟩ then some ⟨l.length⟩ else none) =
        (l.children (some ⟨i⟩)).head? := by
    split
    · rename_i hparent
      rw [hparent] at hlast
      cases hchildren : l.children (some ⟨i⟩) with
      | nil =>
          rw [hchildren] at hlast
          cases hlast
      | cons first others =>
          rfl
    · exact Option.or_none
  rw [node_append hi, hbody]
  by_cases hparent : p.parent? = q.parent?
  · rw [hparent] at hlast
    by_cases hsame : last.raw = i
    · subst hsame
      simp [hparent, sibling?_last hlast, node]
    · have hnext := sibling?_isSome hq hlast hsame
      obtain ⟨next, hnext⟩ := Option.isSome_iff_exists.1 hnext
      simp [hsame, hnext, node]
  · have hne : last.raw ≠ i := by
      intro hsame
      obtain ⟨q', hq', hparent'⟩ := mem_children_iff.1 (List.mem_of_getLast? hlast)
      rw [hsame, hq] at hq'
      cases hq'
      exact hparent hparent'.symm
    simp [hparent, hne, node]

theorem parent?_ne_of_children_eq_nil
    {parent : Option StatementId}
    (hempty : l.children parent = [])
    (hq : l[i]? = some q) :
    parent ≠ q.parent? := by
  rintro rfl
  have hmem : (⟨i⟩ : StatementId) ∈ l.children q.parent? :=
    mem_children_iff.2 ⟨q, hq, rfl⟩
  rw [hempty] at hmem
  cases hmem

/-- The first statement of a body is linked to its section. -/
theorem mapIdx_node_of_first
    {parent : StatementId}
    (hparent : p.parent? = some parent)
    (hempty : l.children (some parent) = []) :
    l.mapIdx (l ++ [p]).node =
      l.nodes.modify parent.raw fun n => { n with body := some ⟨l.length⟩ } := by
  refine mapIdx_eq_modify ?_
  intro i q hq
  have hi : i < l.length := (List.getElem?_eq_some_iff.1 hq).1
  have hne : p.parent? ≠ q.parent? := by
    rw [hparent]
    exact parent?_ne_of_children_eq_nil hempty hq
  rw [node_append hi, if_neg hne, Option.or_none]
  by_cases hsame : parent.raw = i
  · subst hsame
    simp [hparent, hempty, node]
  · have hother : p.parent? ≠ some ⟨i⟩ := by
      rw [hparent]
      rintro ⟨⟩
      exact hsame rfl
    simp [hother, hsame, node]

/-- The first statement at the top level is linked to nothing. -/
theorem mapIdx_node_of_only
    (hparent : p.parent? = none)
    (hempty : l.children none = []) :
    l.mapIdx (l ++ [p]).node = l.nodes := by
  refine List.ext_getElem? fun i => ?_
  rw [List.getElem?_mapIdx, getElem?_nodes]
  cases hq : l[i]? with
  | none =>
      rfl
  | some q =>
      have hi : i < l.length := (List.getElem?_eq_some_iff.1 hq).1
      have hne : p.parent? ≠ q.parent? := by
        rw [hparent]
        exact parent?_ne_of_children_eq_nil hempty hq
      rw [Option.map_some, Option.map_some, node_append hi, if_neg hne]
      simp [hparent, node]

end Append

section Bodies

variable {l : Layout H} {n : Nat} {around : List OpenSection}

theorem bodies_eq_cons
    (around : List OpenSection) :
    bodies around = around.head?.map OpenSection.id :: (bodies around).tail := by
  cases around <;> rfl

theorem parent?_ne_length
    (hnested : l.Nested)
    (hadmits : l.Admits l.length around)
    (statement : Statement H) :
    Placed.parent? ⟨statement, around⟩ ≠ some ⟨l.length⟩ := by
  intro h
  obtain ⟨s, hs, hid⟩ := Option.map_eq_some_iff.1 h
  have hlt := (hnested.pairwise hadmits).1 s (List.mem_of_mem_head? hs)
  rw [hid] at hlt
  exact Nat.lt_irrefl _ hlt

/-- Every open body is another one. -/
theorem nodup_bodies
    (hnested : l.Nested)
    (hadmits : l.Admits n around) :
    (bodies around).Nodup := by
  obtain ⟨_, hpairwise⟩ := hnested.pairwise hadmits
  unfold bodies
  rw [List.nodup_append]
  refine ⟨?_, by simp, ?_⟩
  · unfold List.Nodup
    rw [List.pairwise_map]
    refine hpairwise.imp ?_
    intro s s' hlt hsame
    rw [Option.some.inj hsame] at hlt
    exact Nat.lt_irrefl _ hlt
  · intro parent hmem other hother hsame
    obtain ⟨s, _, rfl⟩ := List.mem_map.1 hmem
    rw [List.mem_singleton.1 hother] at hsame
    cases hsame

/-- A new statement is the last one of the innermost body, and of no other. -/
theorem map_getLast?_children_append
    (hnested : l.Nested)
    (hadmits : l.Admits n around)
    (statement : Statement H) :
    ((bodies around).map fun parent =>
        (children (l ++ [⟨statement, around⟩]) parent).getLast?) =
      some ⟨l.length⟩ :: ((bodies around).tail.map fun parent =>
        (l.children parent).getLast?) := by
  have hnodup := nodup_bodies hnested hadmits
  rw [bodies_eq_cons around] at hnodup ⊢
  rw [List.map_cons, List.tail_cons]
  congr 1
  · have hparent :
        Placed.parent? ⟨statement, around⟩ = around.head?.map OpenSection.id := rfl
    rw [children_append, if_pos hparent, List.getLast?_append]
    rfl
  · refine List.map_congr_left ?_
    intro parent hmem
    have hne : Placed.parent? ⟨statement, around⟩ ≠ parent := by
      rintro rfl
      exact (List.nodup_cons.1 hnodup).1 hmem
    rw [children_append, if_neg hne, List.append_nil]

end Bodies

end Layout

namespace Trigger

/-- A script holds the statements of a nested layout, linked as the layout has it. -/
structure LinkedAs
    (t : Trigger H) (l : Layout H) : Prop where
  nested : l.Nested
  nodes : t.nodes = l.nodes
  first : t.first = (l.children none).head?

section LinkedAs

variable {t : Trigger H} {l : Layout H} {i : Nat} {p : Placed H}

theorem LinkedAs.node?_eq
    (h : t.LinkedAs l)
    (hp : l[i]? = some p) :
    t.node? ⟨i⟩ = some (l.node i p) := by
  rw [node?, h.nodes, Layout.getElem?_nodes, hp]
  rfl

theorem LinkedAs.parent?_eq
    (h : t.LinkedAs l)
    (hp : l[i]? = some p) :
    t.parent? ⟨i⟩ = p.parent? := by
  rw [parent?, h.node?_eq hp]
  rfl

theorem LinkedAs.successor?_eq
    (h : t.LinkedAs l)
    (hp : l[i]? = some p) :
    t.successor? ⟨i⟩ = (l.sibling? i p).or p.parent? := by
  rw [successor?, h.node?_eq hp]
  rfl

end LinkedAs

end Trigger

namespace Assembly

/-- An assembly holds what its ledger lists, with the links in between. -/
structure Keeps
    (types : TypeSystem) (a : Assembly H) (l : Ledger H) : Prop where
  types : a.types = types
  event : a.event = l.event
  sections : l.sections = List.replicate a.refusedDepth none ++ a.state.sections.map some
  nodes : a.nodes = l.layout.nodes
  first : a.first = (l.layout.children none).head?
  tails : a.tails = (Layout.bodies a.state.sections).map fun parent =>
    (l.layout.children parent).getLast?

section Keeps

variable {types : TypeSystem} {limits : Limits} {a : Assembly H} {l : Ledger H}

theorem Keeps.around_eq
    (h : Keeps types a l) :
    l.around = a.state.sections := by
  unfold Ledger.around
  rw [h.sections, List.filterMap_append, List.filterMap_map]
  simp

theorem Keeps.setting_eq
    (h : Keeps types a l)
    (info : MatchInfo) :
    l.setting types info = a.setting info := by
  unfold Ledger.setting setting
  rw [h.around_eq, h.types]

theorem Keeps.isRefusing_eq
    (h : Keeps types a l) :
    l.isRefusing = decide (0 < a.refusedDepth) := by
  unfold Ledger.isRefusing
  rw [h.sections, List.any_append]
  cases a.refusedDepth <;> simp [List.replicate_succ]

theorem Keeps.nextId_eq
    (h : Keeps types a l) :
    a.nextId = ⟨l.layout.length⟩ := by
  unfold nextId
  rw [h.nodes]
  simp [Layout.nodes]

theorem Keeps.reporting
    (h : Keeps types a l)
    (d : Diagnostic) :
    Keeps types (a.reporting d) l :=
  ⟨h.types, h.event, h.sections, h.nodes, h.first, h.tails⟩

theorem Keeps.tail?_eq
    (h : Keeps types a l) :
    a.tail? = (l.layout.children a.parent?).getLast? := by
  have hparent : a.parent? = a.state.sections.head?.map OpenSection.id := rfl
  unfold tail?
  rw [h.tails, Layout.bodies_eq_cons, hparent]
  rfl

/-- Whatever is put in is linked as the layout has it. -/
theorem Keeps.linked_eq
    (h : Keeps types a l)
    {p : Placed H}
    (hparent : p.parent? = a.parent?) :
    a.linked (some a.nextId) = l.layout.mapIdx (l.layout ++ [p]).node := by
  rw [linked]
  simp only [h.nextId_eq, h.nodes, h.tail?_eq]
  cases hlast : (l.layout.children a.parent?).getLast? with
  | some last =>
      rw [← hparent] at hlast
      exact (Layout.mapIdx_node_of_last hlast).symm
  | none =>
      rw [List.getLast?_eq_none_iff] at hlast
      cases hbody : a.parent? with
      | some parent =>
          rw [hbody] at hlast hparent
          exact (Layout.mapIdx_node_of_first hparent hlast).symm
      | none =>
          rw [hbody] at hlast hparent
          exact (Layout.mapIdx_node_of_only hparent hlast).symm

/-- The first statement at the top level is the first one of the script. -/
theorem Keeps.first_eq
    (h : Keeps types a l)
    {p : Placed H}
    (hparent : p.parent? = a.parent?) :
    (if a.tail?.isNone && a.parent?.isNone then some a.nextId else a.first) =
      ((l.layout ++ [p]).children none).head? := by
  rw [Layout.children_append, List.head?_append, hparent, h.tail?_eq,
    h.nextId_eq, h.first]
  cases hbody : a.parent? with
  | some parent =>
      simp
  | none =>
      cases l.layout.children none with
      | nil =>
          rfl
      | cons first others =>
          cases hlast : (first :: others).getLast? with
          | none =>
              rw [List.getLast?_eq_none_iff] at hlast
              cases hlast
          | some last =>
              rfl

theorem Keeps.append
    (h : Keeps types a l)
    (hsound : l.Sound)
    (statement : Statement H) :
    Keeps types (a.append statement) (l.place statement) where
  types := h.types
  event := h.event
  sections := h.sections
  nodes := by
    have hadmits := hsound.admits
    have hne := Layout.parent?_ne_length hsound.nested hadmits statement
    rw [h.around_eq] at hne
    have hnodes : (a.append statement).nodes =
        a.linked (some a.nextId) ++ [⟨statement, none, a.parent?, none⟩] := rfl
    have hlayout :
        (l.place statement).layout = l.layout ++ [⟨statement, a.state.sections⟩] := by
      rw [Ledger.place, h.around_eq]
    rw [hnodes, hlayout, Layout.nodes_append hsound.nested hne]
    rw [h.linked_eq (p := ⟨statement, a.state.sections⟩) rfl]
    rfl
  first := by
    have hlayout :
        (l.place statement).layout = l.layout ++ [⟨statement, a.state.sections⟩] := by
      rw [Ledger.place, h.around_eq]
    rw [hlayout]
    exact h.first_eq rfl
  tails := by
    have hadmits := hsound.admits
    rw [h.around_eq] at hadmits
    have hlayout :
        (l.place statement).layout = l.layout ++ [⟨statement, a.state.sections⟩] := by
      rw [Ledger.place, h.around_eq]
    have htails : (a.append statement).tails = some a.nextId :: a.tails.tail := rfl
    rw [htails, hlayout, h.nextId_eq, h.tails, ← List.map_tail]
    exact (Layout.map_getLast?_children_append hsound.nested hadmits statement).symm

/-- A section that is put in is open, with an empty body. -/
theorem Keeps.opened
    (h : Keeps types a l)
    (hsound : l.Sound)
    (haccepting : a.refusedDepth = 0)
    (s : Section H) :
    Keeps types
      { a.append (.ofSection s) with
        state := ⟨⟨a.nextId, s.isLoop, s.describe false⟩ :: a.state.sections⟩
        tails := none :: (a.append (.ofSection s)).tails }
      ((l.place (.ofSection s)).opening (some (l.nextSection s))) where
  types := h.types
  event := h.event
  sections := by
    have hsections := h.sections
    have hdepth : (a.append (.ofSection s)).refusedDepth = 0 := haccepting
    rw [haccepting] at hsections
    simp [Ledger.opening, Ledger.place, Ledger.nextSection, hsections,
      h.nextId_eq, hdepth]
  nodes := (h.append hsound (.ofSection s)).nodes
  first := (h.append hsound (.ofSection s)).first
  tails := by
    have htails := (h.append hsound (.ofSection s)).tails
    have hne := Layout.parent?_ne_length hsound.nested hsound.admits (.ofSection s)
    have hempty : (l.place (.ofSection s)).layout.children (some a.nextId) = [] := by
      rw [Ledger.place, Layout.children_append, h.nextId_eq,
        hsound.nested.children_length, if_neg hne, List.append_nil]
    change none :: (a.append (.ofSection s)).tails = _
    rw [htails]
    change _ = ((l.place (.ofSection s)).layout.children (some a.nextId)).getLast? :: _
    rw [hempty]
    rfl

theorem Keeps.closed
    (h : Keeps types a l) :
    Keeps types a.closeSection { l with sections := l.sections.tail } := by
  have hsections := h.sections
  unfold closeSection
  cases hdepth : a.refusedDepth with
  | succ depth =>
      rw [if_pos (by omega)]
      refine ⟨h.types, h.event, ?_, h.nodes, h.first, h.tails⟩
      rw [hdepth, List.replicate_succ] at hsections
      simp [hsections]
  | zero =>
      rw [if_neg (by omega)]
      rw [hdepth] at hsections
      cases hopen : a.state.sections with
      | nil =>
          have hempty : l.sections = [] := by
            simpa [hopen] using hsections
          have hsame : ({ l with sections := l.sections.tail } : Ledger H) = l := by
            rw [hempty, List.tail_nil, ← hempty]
          rw [hsame]
          exact h.reporting _
      | cons s outer =>
          rw [hopen] at hsections
          refine ⟨h.types, h.event, ?_, h.nodes, h.first, ?_⟩
          · simp [hsections]
          · rw [h.tails, hopen]
            rfl

/-- An assembly goes on holding what its ledger lists. -/
theorem Keeps.perform
    (h : Keeps types a l)
    (hsound : l.Sound)
    (op : Operation H) :
    Keeps types (a.perform op) (l.record types op) := by
  cases op with
  | setEvent event es info =>
      simp only [Assembly.perform, Ledger.record, setEvent, h.setting_eq]
      cases event.init es (a.setting info) with
      | ok event =>
          exact ⟨h.types, rfl, h.sections, h.nodes, h.first, h.tails⟩
      | error d =>
          exact h.reporting d
  | expression e es info =>
      simp only [Assembly.perform, Ledger.record, expression]
      cases e.init es (a.setting info) with
      | ok e =>
          exact h
      | error d =>
          exact h.reporting d
  | effect e es info =>
      simp only [Assembly.perform, Ledger.record, Assembly.effect,
        h.setting_eq, h.isRefusing_eq, decide_eq_true_eq]
      split
      · exact h
      · cases e.init es (a.setting info) with
        | ok e =>
            exact h.append hsound _
        | error d =>
            exact h.reporting d
  | openSection s es info =>
      simp only [Assembly.perform, Ledger.record, Assembly.openSection, h.setting_eq,
        h.isRefusing_eq, decide_eq_true_eq]
      split
      · refine ⟨h.types, h.event, ?_, h.nodes, h.first, h.tails⟩
        simp [Ledger.opening, h.sections, List.replicate_succ]
      · rename_i haccepting
        have hdepth : a.refusedDepth = 0 := by omega
        cases s.init es (a.setting info) with
        | ok s =>
            exact h.opened hsound hdepth s
        | error d =>
            refine ⟨h.types, h.event, ?_, h.nodes, h.first, h.tails⟩
            have hsections := h.sections
            rw [hdepth] at hsections
            simpa [Ledger.opening, Assembly.reporting] using hsections
  | closeSection =>
      exact h.closed

/-- An assembly answers as its ledger does. -/
theorem Keeps.answer_eq
    (h : Keeps types a l)
    (op : Operation H) :
    a.answer op = l.accepts types op := by
  cases op with
  | setEvent event es info =>
      simp only [answer, Ledger.accepts, setEvent, h.setting_eq]
      cases event.init es (a.setting info) <;> rfl
  | expression e es info =>
      simp only [answer, Ledger.accepts, expression, h.setting_eq]
      cases e.init es (a.setting info) <;> rfl
  | effect e es info =>
      simp only [answer, Ledger.accepts, Assembly.effect, h.setting_eq, h.isRefusing_eq]
      by_cases hrefusing : 0 < a.refusedDepth
      · simp [hrefusing]
      · simp only [hrefusing, if_false, decide_false, Bool.not_false, Bool.true_and]
        cases e.init es (a.setting info) <;> rfl
  | openSection s es info =>
      simp only [answer, Ledger.accepts, Assembly.openSection,
        h.setting_eq, h.isRefusing_eq]
      by_cases hrefusing : 0 < a.refusedDepth
      · simp [hrefusing]
      · simp only [hrefusing, if_false, decide_false, Bool.not_false, Bool.true_and]
        cases s.init es (a.setting info) <;> rfl
  | closeSection =>
      rfl

/-- Every assembly holds what the ledger of its journal lists. -/
theorem keeps_after
    (types : TypeSystem) (limits : Limits) (j : Journal H) :
    Keeps types (after types limits j) (Ledger.ofJournal types j) := by
  induction j with
  | nil =>
      exact ⟨rfl, rfl, rfl, rfl, rfl, rfl⟩
  | cons op earlier ih =>
      exact ih.perform (Ledger.sound_ofJournal types earlier) op

/-- A finished script has the event of its ledger, and is linked as the layout has it. -/
theorem linkedAs_of_build
    {j : Journal H} {t : Trigger H}
    (h : (after types limits j).build = .ok t) :
    t.event = (Ledger.ofJournal types j).event ∧
      t.LinkedAs (Ledger.ofJournal types j).layout := by
  have hkeeps := keeps_after types limits j
  have hsound := Ledger.sound_ofJournal types j
  unfold build at h
  split at h
  · cases h
  · cases h
    exact ⟨hkeeps.event, hsound.nested, hkeeps.nodes, hkeeps.first⟩

end Keeps

end Assembly

end Script
end TriggerScript
