import TriggerScript.Script.Trigger

/-!
# Layouts of scripts

A layout lists the statements of a script in the order in which they were put in, each
with the sections that were open around it. It has no links: the next statement of a
body, its first one and the section around it can be read off. In a nested layout the
sections around a statement are earlier statements, and no statement between a section
and something inside of it stands outside.
-/

namespace TriggerScript
namespace Script

variable {H : Host}

/-- A statement of a script with the sections around it, the innermost first. -/
structure Placed (H : Host) where
  statement : Statement H
  around : List OpenSection

namespace Placed

/-- The section whose body the statement belongs to. -/
def parent?
    (p : Placed H) : Option StatementId :=
  p.around.head?.map OpenSection.id

/-- The statement in words. -/
def text
    (p : Placed H) : String :=
  match p.statement with
  | .ofEffect e => e.describe false
  | .ofSection s => s.describe false ++ ":"

/-- Whether the statement stands inside of a given section,
at any depth; everything stands inside of none. -/
def isInside
    (parent : Option StatementId) (p : Placed H) : Bool :=
  match parent with
  | some id => p.around.any fun s => s.id == id
  | none => true

theorem isInside_parent?
    (p : Placed H) :
    p.isInside p.parent? = true := by
  unfold isInside parent?
  cases p.around <;> simp

theorem isInside_some_iff
    {p : Placed H} {id : StatementId} :
    p.isInside (some id) = true ↔ ∃ s ∈ p.around, s.id = id := by
  simp [isInside]

end Placed

/-- The statements of a script in the order in which they
were put in. The position of a statement is its identity. -/
abbrev Layout (H : Host) := List (Placed H)

namespace Layout

/-- The statements of one body in their order; without
a section these are the ones at the top level. -/
def children
    (l : Layout H) (parent : Option StatementId) : List StatementId :=
  l.zipIdx.filterMap fun (p, i) => if p.parent? = parent then some ⟨i⟩ else none

/-- The statement of the same body that comes next. -/
def sibling?
    (l : Layout H) (i : Nat) (p : Placed H) : Option StatementId :=
  (l.children p.parent?).find? fun id => i < id.raw

/-- A statement with its links. -/
def node
    (l : Layout H) (i : Nat) (p : Placed H) : Node H where
  statement := p.statement
  next := l.sibling? i p
  parent := p.parent?
  body := (l.children (some ⟨i⟩)).head?

def nodes
    (l : Layout H) : List (Node H) :=
  l.mapIdx l.node

/-- One line for each statement, indented by the number of sections around it. -/
def lines
    (base : Nat) : Layout H → String
  | [] => ""
  | p :: l => Trigger.line (base + p.around.length) p.text ++ lines base l

theorem lines_append
    (base : Nat) (l l' : Layout H) :
    lines base (l ++ l') = lines base l ++ lines base l' := by
  induction l with
  | nil =>
      simp [lines]
  | cons p l ih =>
      simp [lines, ih, String.append_assoc]

section Children

variable {l : Layout H} {p : Placed H} {parent : Option StatementId} {id : StatementId}

theorem children_append
    (l : Layout H) (p : Placed H) (parent : Option StatementId) :
    children (l ++ [p]) parent =
      l.children parent ++ if p.parent? = parent then [⟨l.length⟩] else [] := by
  unfold children
  rw [List.zipIdx_append, List.filterMap_append]
  split <;> simp_all

theorem mem_children_iff :
    id ∈ l.children parent ↔ ∃ p, l[id.raw]? = some p ∧ p.parent? = parent := by
  unfold children
  rw [List.mem_filterMap]
  constructor
  · rintro ⟨⟨p, i⟩, hmem, hid⟩
    rw [List.mem_zipIdx_iff_getElem?] at hmem
    by_cases hparent : p.parent? = parent
    · simp only [hparent, if_true, Option.some.injEq] at hid
      subst hid
      exact ⟨p, hmem, hparent⟩
    · simp [hparent] at hid
  · rintro ⟨p, hp, hparent⟩
    refine ⟨(p, id.raw), ?_, ?_⟩
    · rw [List.mem_zipIdx_iff_getElem?]
      exact hp
    · simp [hparent]

theorem lt_length_of_mem_children
    (h : id ∈ l.children parent) :
    id.raw < l.length := by
  obtain ⟨p, hp, _⟩ := mem_children_iff.1 h
  exact (List.getElem?_eq_some_iff.1 hp).1

/-- The statements of a body are listed in the order of their identities. -/
theorem pairwise_children
    (l : Layout H) (parent : Option StatementId) :
    (l.children parent).Pairwise fun a b => a.raw < b.raw := by
  unfold children
  rw [List.pairwise_filterMap]
  have hpositions : l.zipIdx.Pairwise fun a b => a.2 < b.2 := by
    rw [← List.pairwise_map, List.zipIdx_map_snd]
    exact List.pairwise_lt_range'
  refine hpositions.imp ?_
  rintro ⟨p, i⟩ ⟨q, j⟩ hlt a ha b hb
  obtain ⟨_, ha⟩ := Option.ite_none_right_eq_some.1 ha
  obtain ⟨_, hb⟩ := Option.ite_none_right_eq_some.1 hb
  rw [← Option.some.inj ha, ← Option.some.inj hb]
  exact hlt

/-- The first statement of a body is the one before which there is none. -/
theorem head?_children_eq_some
    (hmem : id ∈ l.children parent)
    (hfirst : ∀ other ∈ l.children parent, id.raw ≤ other.raw) :
    (l.children parent).head? = some id := by
  have hsorted := pairwise_children l parent
  cases h : l.children parent with
  | nil =>
      rw [h] at hmem
      cases hmem
  | cons first others =>
      rw [h] at hmem hfirst hsorted
      rcases List.mem_cons.1 hmem with rfl | hothers
      · rfl
      · have hlt := (List.pairwise_cons.1 hsorted).1 id hothers
        have hle := hfirst first List.mem_cons_self
        omega

/-- The next statement of a body is the one with none in between. -/
theorem sibling?_eq_some
    {i : Nat}
    (hmem : id ∈ l.children p.parent?)
    (hlt : i < id.raw)
    (hnext : ∀ other ∈ l.children p.parent?, i < other.raw → id.raw ≤ other.raw) :
    l.sibling? i p = some id := by
  have hsorted := pairwise_children l p.parent?
  unfold sibling?
  cases h : (l.children p.parent?).find? fun id => i < id.raw with
  | none =>
      have hnone := List.find?_eq_none.1 h id hmem
      simp [hlt] at hnone
  | some other =>
      obtain ⟨hother, before, behind, hsplit, _⟩ := List.find?_eq_some_iff_append.1 h
      have hle : id.raw ≤ other.raw := by
        refine hnext other ?_ (by simpa using hother)
        rw [hsplit]
        exact List.mem_append_right _ List.mem_cons_self
      rw [hsplit] at hmem hsorted
      rcases List.mem_append.1 hmem with hbefore | hbehind
      · have hno : ¬ i < id.raw := by
          rename_i hnone
          simpa using hnone id hbefore
        exact absurd hlt hno
      · rcases List.mem_cons.1 hbehind with rfl | hbehind
        · rfl
        · have hsorted := (List.pairwise_append.1 hsorted).2.1
          have := (List.pairwise_cons.1 hsorted).1 id hbehind
          omega

theorem sibling?_eq_none
    {i : Nat}
    (hlast : ∀ other ∈ l.children p.parent?, other.raw ≤ i) :
    l.sibling? i p = none := by
  unfold sibling?
  rw [List.find?_eq_none]
  intro other hother
  have := hlast other hother
  simpa using this

theorem sibling?_spec
    {i : Nat}
    (h : l.sibling? i p = some id) :
    i < id.raw ∧ ∃ q, l[id.raw]? = some q ∧ q.parent? = p.parent? := by
  have hlt := List.find?_some h
  exact ⟨by simpa using hlt, mem_children_iff.1 (List.mem_of_find?_eq_some h)⟩

end Children

/-- The sections around a statement at a position: each of
them is a section of the layout in front of the position,
with the others around it, and goes on up to the position. -/
structure Admits
    (l : Layout H) (n : Nat) (around : List OpenSection) : Prop where
  chained :
    ∀ s outer, around = s :: outer →
      s.id.raw < n ∧
        ∃ sec, l[s.id.raw]? = some ⟨.ofSection sec, outer⟩ ∧
          s = ⟨s.id, sec.isLoop, sec.describe false⟩
  contiguous :
    ∀ s ∈ around, ∀ i p, s.id.raw < i → i < n → l[i]? = some p → s ∈ p.around

/-- The sections around all statements are those of the layout. -/
def Nested
    (l : Layout H) : Prop :=
  ∀ n p, l[n]? = some p → l.Admits n p.around

section Growing

variable {l : Layout H} {n : Nat} {around outer : List OpenSection} {s : OpenSection}

theorem admits_nil
    (l : Layout H) (n : Nat) :
    l.Admits n [] where
  chained := by
    intro s outer h
    cases h
  contiguous := by
    intro s hs
    cases hs

theorem Admits.append
    (h : l.Admits n around)
    (hn : n ≤ l.length)
    (p : Placed H) :
    Admits (l ++ [p]) n around where
  chained := by
    intro s outer hcons
    obtain ⟨hlt, sec, hsec, hs⟩ := h.chained s outer hcons
    refine ⟨hlt, sec, ?_, hs⟩
    rw [List.getElem?_append_left (by omega)]
    exact hsec
  contiguous := by
    intro s hs i q hlt hi hq
    rw [List.getElem?_append_left (by omega)] at hq
    exact h.contiguous s hs i q hlt hi hq

/-- A statement that is put in has the open sections around it, and they stay open. -/
theorem Admits.behind
    (h : l.Admits l.length around)
    (statement : Statement H) :
    Admits (l ++ [⟨statement, around⟩]) (l.length + 1) around where
  chained := by
    intro s outer hcons
    obtain ⟨hlt, hsec⟩ :=
      (h.append (Nat.le_refl _) ⟨statement, around⟩).chained s outer hcons
    exact ⟨by omega, hsec⟩
  contiguous := by
    intro s hs i q hlt hi hq
    by_cases hlast : i = l.length
    · subst hlast
      rw [List.getElem?_concat_length] at hq
      cases hq
      exact hs
    · exact (h.append (Nat.le_refl _) _).contiguous s hs i q hlt (by omega) hq

/-- A section that is put in can be opened. -/
theorem Admits.opened
    (h : l.Admits l.length around)
    (sec : Section H) :
    Admits (l ++ [⟨.ofSection sec, around⟩]) (l.length + 1)
      (⟨⟨l.length⟩, sec.isLoop, sec.describe false⟩ :: around) where
  chained := by
    intro s outer hcons
    cases hcons
    exact ⟨Nat.lt_succ_self _, sec, List.getElem?_concat_length, rfl⟩
  contiguous := by
    intro s hs i q hlt hi hq
    rcases List.mem_cons.1 hs with rfl | hs
    · have : l.length < i := hlt
      omega
    · exact (h.behind _).contiguous s hs i q hlt hi hq

/-- The innermost section can be closed. -/
theorem Admits.closed
    (hnested : l.Nested)
    (h : l.Admits n (s :: outer)) :
    l.Admits n outer where
  chained := by
    intro s' outer' hcons
    obtain ⟨hlt, sec, hsec, _⟩ := h.chained s outer rfl
    obtain ⟨hlt', hsec'⟩ := (hnested _ _ hsec).chained s' outer' hcons
    exact ⟨by omega, hsec'⟩
  contiguous := by
    intro s' hs'
    exact h.contiguous s' (List.mem_cons_of_mem s hs')

theorem Nested.append
    (h : l.Nested)
    (haround : l.Admits l.length around)
    (statement : Statement H) :
    Nested (l ++ [⟨statement, around⟩]) := by
  intro n p hp
  by_cases hn : n < l.length
  · rw [List.getElem?_append_left hn] at hp
    exact (h n p hp).append (by omega) _
  · have hlast : n = l.length := by
      have := (List.getElem?_eq_some_iff.1 hp).1
      rw [List.length_append, List.length_singleton] at this
      omega
    subst hlast
    rw [List.getElem?_concat_length] at hp
    cases hp
    exact haround.append (Nat.le_refl _) _

end Growing

section Nested

variable {l : Layout H} {n i : Nat} {around outer : List OpenSection} {s : OpenSection}

theorem Nested.outer_admits
    (hnested : l.Nested)
    (h : l.Admits n (s :: outer)) :
    l.Admits s.id.raw outer := by
  obtain ⟨_, sec, hsec, _⟩ := h.chained s outer rfl
  exact hnested _ _ hsec

/-- Outer sections have smaller identities, and all of
them are smaller than that of a statement inside. -/
theorem Nested.pairwise
    (hnested : l.Nested)
    (h : l.Admits n around) :
    (∀ s ∈ around, s.id.raw < n) ∧ around.Pairwise fun s s' => s'.id.raw < s.id.raw := by
  induction around generalizing n with
  | nil =>
      exact ⟨by simp, List.Pairwise.nil⟩
  | cons s outer ih =>
      obtain ⟨hlt, _⟩ := h.chained s outer rfl
      obtain ⟨houter, hpairwise⟩ := ih (hnested.outer_admits h)
      refine ⟨?_, List.pairwise_cons.2 ⟨houter, hpairwise⟩⟩
      intro s' hs'
      rcases List.mem_cons.1 hs' with rfl | hs'
      · exact hlt
      · exact Nat.lt_trans (houter s' hs') hlt

/-- Around a section that is around a statement
are the rest of the sections around that. -/
theorem Nested.exists_section
    (hnested : l.Nested)
    (h : l.Admits n around)
    (hs : s ∈ around) :
    ∃ sec outer,
      l[s.id.raw]? = some ⟨.ofSection sec, outer⟩ ∧
        s = ⟨s.id, sec.isLoop, sec.describe false⟩ ∧
        s :: outer <:+ around := by
  induction around generalizing n with
  | nil =>
      cases hs
  | cons s' outer' ih =>
      rcases List.mem_cons.1 hs with rfl | hs
      · obtain ⟨_, sec, hsec, hs⟩ := h.chained s outer' rfl
        exact ⟨sec, outer', hsec, hs, List.suffix_rfl⟩
      · obtain ⟨sec, outer, hsec, hs, hsuffix⟩ := ih (hnested.outer_admits h) hs
        exact ⟨sec, outer, hsec, hs, hsuffix.trans (List.suffix_cons s' outer')⟩

variable {p q : Placed H}

/-- What stands inside of a statement has that statement,
a section, and the sections around it around. -/
theorem Nested.suffix_of_isInside
    (hnested : l.Nested)
    (hp : l[i]? = some p)
    (hq : l[n]? = some q)
    (hinside : q.isInside (some ⟨i⟩) = true) :
    ∃ sec, p.statement = .ofSection sec ∧
      (⟨⟨i⟩, sec.isLoop, sec.describe false⟩ :: p.around : List OpenSection) <:+
        q.around := by
  obtain ⟨s, hs, hid⟩ := Placed.isInside_some_iff.1 hinside
  obtain ⟨sec, outer, hsec, hshape, hsuffix⟩ :=
    hnested.exists_section (hnested n q hq) hs
  rw [hid, hp] at hsec
  cases hsec
  rw [hid] at hshape
  rw [hshape] at hsuffix
  exact ⟨sec, rfl, hsuffix⟩

/-- Between a section and something inside of it everything is inside of it. -/
theorem Nested.isInside_of_le
    (hnested : l.Nested)
    {j : Nat} {id : StatementId}
    (hp : l[j]? = some p)
    (hq : l[n]? = some q)
    (hinside : q.isInside (some id) = true)
    (hlt : id.raw < j)
    (hle : j ≤ n) :
    p.isInside (some id) = true := by
  by_cases hsame : j = n
  · subst hsame
    rw [hp] at hq
    cases hq
    exact hinside
  · obtain ⟨s, hs, rfl⟩ := Placed.isInside_some_iff.1 hinside
    have hmem := (hnested n q hq).contiguous s hs j p hlt (by omega) hp
    exact Placed.isInside_some_iff.2 ⟨s, hmem, rfl⟩

/-- What stands inside of a statement stands
inside of everything that the statement is in. -/
theorem Nested.isInside_parent?
    (hnested : l.Nested)
    (hp : l[i]? = some p)
    (hq : l[n]? = some q)
    (hinside : q.isInside (some ⟨i⟩) = true) :
    q.isInside p.parent? = true := by
  obtain ⟨sec, _, hsuffix⟩ := hnested.suffix_of_isInside hp hq hinside
  unfold Placed.parent?
  cases haround : p.around with
  | nil =>
      rfl
  | cons s outer =>
      have hmem : s ∈ q.around := by
        refine hsuffix.subset (List.mem_cons_of_mem _ ?_)
        rw [haround]
        exact List.mem_cons_self
      exact Placed.isInside_some_iff.2 ⟨s, hmem, rfl⟩

/-- A statement inside of another one belongs to a
body that starts at that one or later. -/
theorem Nested.le_parent?
    (hnested : l.Nested)
    (hp : l[i]? = some p)
    (hq : l[n]? = some q)
    (hinside : q.isInside (some ⟨i⟩) = true) :
    ∃ id, q.parent? = some id ∧ i ≤ id.raw := by
  obtain ⟨sec, _, hsuffix⟩ := hnested.suffix_of_isInside hp hq hinside
  have hpairwise := (hnested.pairwise (hnested n q hq)).2
  unfold Placed.parent?
  cases haround : q.around with
  | nil =>
      rw [haround] at hsuffix
      cases List.suffix_nil.1 hsuffix
  | cons s outer =>
      rw [haround] at hsuffix hpairwise
      refine ⟨s.id, rfl, ?_⟩
      rcases List.suffix_cons_iff.1 hsuffix with hsame | hsuffix
      · cases hsame
        exact Nat.le_refl _
      · have hlt := (List.pairwise_cons.1 hpairwise).1 _
          (hsuffix.subset List.mem_cons_self)
        exact Nat.le_of_lt hlt

theorem Nested.parent?_lt
    (hnested : l.Nested)
    (hp : l[i]? = some p)
    {id : StatementId}
    (h : p.parent? = some id) :
    id.raw < i := by
  obtain ⟨s, hs, rfl⟩ := Option.map_eq_some_iff.1 h
  exact (hnested.pairwise (hnested i p hp)).1 s (List.mem_of_mem_head? hs)

/-- The statements of a body have the section of
the body around them, and what is around that. -/
theorem Nested.around_of_parent?
    (hnested : l.Nested)
    (hp : l[i]? = some p)
    (hq : l[n]? = some q)
    (hparent : q.parent? = some ⟨i⟩) :
    ∃ sec, p.statement = .ofSection sec ∧
      q.around = ⟨⟨i⟩, sec.isLoop, sec.describe false⟩ :: p.around := by
  unfold Placed.parent? at hparent
  cases haround : q.around with
  | nil =>
      rw [haround] at hparent
      cases hparent
  | cons s outer =>
      rw [haround] at hparent
      obtain ⟨_, sec, hsec, hs⟩ := (hnested n q hq).chained s outer haround
      have hid : s.id = ⟨i⟩ := Option.some.inj hparent
      rw [hid, hp] at hsec
      cases hsec
      rw [hid] at hs
      rw [hs]
      exact ⟨sec, rfl, rfl⟩

/-- The statements of one body have the same sections around them. -/
theorem Nested.around_eq_of_parent?
    (hnested : l.Nested)
    (hp : l[i]? = some p)
    (hq : l[n]? = some q)
    (hparent : q.parent? = p.parent?) :
    q.around = p.around := by
  cases hbody : p.parent? with
  | none =>
      rw [hbody] at hparent
      unfold Placed.parent? at hbody hparent
      rw [Option.map_eq_none_iff, List.head?_eq_none_iff] at hbody hparent
      rw [hbody, hparent]
  | some id =>
      rw [hbody] at hparent
      obtain ⟨s, hs, hid⟩ := Option.map_eq_some_iff.1 hbody
      obtain ⟨outer, haround⟩ := List.head?_eq_some_iff.1 hs
      obtain ⟨_, sec, hsec, _⟩ := (hnested i p hp).chained s outer haround
      rw [hid] at hsec
      obtain ⟨_, hsection, hqAround⟩ := hnested.around_of_parent? hsec hq hparent
      obtain ⟨_, hsection', hpAround⟩ := hnested.around_of_parent? hsec hp hbody
      cases hsection
      cases hsection'
      rw [hqAround, hpAround]

theorem isInside_of_parent?
    {id : StatementId}
    (h : q.parent? = some id) :
    q.isInside (some id) = true := by
  rw [← h]
  exact q.isInside_parent?

end Nested

end Layout

end Script
end TriggerScript
