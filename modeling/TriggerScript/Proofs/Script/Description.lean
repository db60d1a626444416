import Mathlib.Data.List.TakeWhile
import TriggerScript.Proofs.Script.Linking

/-!
# Finished scripts in words

A script is described by following its links, from each section into its body and behind
it to the next statement. In a nested layout everything inside of a section comes right
behind it, and so the links lead through the statements in the order in which they were
put in.
-/

namespace TriggerScript
namespace Script

variable {H : Host}

namespace Layout

/-- From a position on, a property holds up to a first position at which it fails. -/
theorem exists_dropWhile_eq_drop
    {α : Type} (f : α → Bool) (xs : List α) (n : Nat) :
    ∃ k, n ≤ k ∧
      (xs.drop n).dropWhile f = xs.drop k ∧
      (∀ j x, n ≤ j → j < k → xs[j]? = some x → f x = true) ∧
      ∀ x, xs[k]? = some x → f x = false := by
  induction hlength : xs.length - n generalizing n with
  | zero =>
      refine ⟨n, Nat.le_refl n, ?_, ?_, ?_⟩
      · rw [List.drop_eq_nil_of_le (by omega)]
        rfl
      · intro j x hj hlt
        omega
      · intro x hx
        rw [List.getElem?_eq_none (by omega)] at hx
        cases hx
  | succ m ih =>
      have hn : n < xs.length := by omega
      rw [List.drop_eq_getElem_cons hn, List.dropWhile_cons]
      cases hf : f xs[n] with
      | false =>
          refine ⟨n, Nat.le_refl n, ?_, ?_, ?_⟩
          · simp
          · intro j x hj hlt
            omega
          · intro x hx
            rw [List.getElem?_eq_getElem hn, Option.some.injEq] at hx
            rwa [← hx]
      | true =>
          obtain ⟨k, hk, hdrop, hbefore, hend⟩ := ih (n + 1) (by omega)
          refine ⟨k, by omega, by simpa using hdrop, ?_, hend⟩
          intro j x hj hlt hx
          by_cases hsame : j = n
          · subst hsame
            rw [List.getElem?_eq_getElem hn, Option.some.injEq] at hx
            rwa [← hx]
          · exact hbefore j x (by omega) hlt hx

/-- A longer start is a shorter one and what comes behind that. -/
theorem takeWhile_eq_append
    {α : Type} {f g : α → Bool} {xs : List α}
    (h : ∀ x ∈ xs, f x = true → g x = true) :
    xs.takeWhile g = xs.takeWhile f ++ (xs.dropWhile f).takeWhile g := by
  induction xs with
  | nil =>
      rfl
  | cons x xs ih =>
      have htail := ih fun y hy => h y (List.mem_cons_of_mem x hy)
      cases hf : f x with
      | false =>
          simp [hf]
      | true =>
          have hg := h x List.mem_cons_self hf
          simp [hf, hg, htail]

section Nested

variable {l : Layout H} {i n k : Nat} {p q : Placed H}

/-- Something right behind a statement and inside of it is the first one of its body. -/
theorem Nested.children_of_isInside
    (hnested : l.Nested)
    (hp : l[i]? = some p)
    (hq : l[i + 1]? = some q)
    (hinside : q.isInside (some ⟨i⟩) = true) :
    q.parent? = some ⟨i⟩ ∧ (l.children (some ⟨i⟩)).head? = some ⟨i + 1⟩ := by
  obtain ⟨id, hparent, hle⟩ := hnested.le_parent? hp hq hinside
  have hlt := hnested.parent?_lt hq hparent
  have hid : id = ⟨i⟩ := by
    cases id
    congr 1
    simp only at hle hlt
    omega
  rw [hid] at hparent
  refine ⟨hparent, head?_children_eq_some (mem_children_iff.2 ⟨q, hq, hparent⟩) ?_⟩
  intro other hother
  obtain ⟨q', hq', hparent'⟩ := mem_children_iff.1 hother
  have hlt' := hnested.parent?_lt hq' hparent'
  exact hlt'

/-- Without something inside of it right behind it, a statement has an empty body. -/
theorem Nested.children_eq_nil
    (hnested : l.Nested)
    (hno : ∀ q, l[i + 1]? = some q → q.isInside (some ⟨i⟩) = false) :
    l.children (some ⟨i⟩) = [] := by
  rw [List.eq_nil_iff_forall_not_mem]
  intro other hother
  have hlength := lt_length_of_mem_children hother
  obtain ⟨q', hq', hparent'⟩ := mem_children_iff.1 hother
  have hlt := hnested.parent?_lt hq' hparent'
  simp only at hlt
  have hi : i + 1 < l.length := by omega
  have hinside := hnested.isInside_of_le (List.getElem?_eq_getElem hi) hq'
    (isInside_of_parent? hparent') (Nat.lt_succ_self i) (by omega)
  rw [hno _ (List.getElem?_eq_getElem hi)] at hinside
  cases hinside

/-- What comes behind everything inside of a statement,
but in the same section, belongs to the same body. -/
theorem Nested.parent?_eq_of_end
    (hnested : l.Nested)
    (hp : l[i]? = some p)
    (hq : l[k]? = some q)
    (hik : i < k)
    (hbetween : ∀ j r, i < j → j < k → l[j]? = some r → r.isInside (some ⟨i⟩) = true)
    (hout : q.isInside (some ⟨i⟩) = false)
    (hin : q.isInside p.parent? = true) :
    q.parent? = p.parent? := by
  have hadmits := hnested k q hq
  cases haround : q.around with
  | nil =>
      cases hbody : p.parent? with
      | none =>
          simp [Placed.parent?, haround]
      | some id =>
          rw [hbody, Placed.isInside_some_iff, haround] at hin
          obtain ⟨s, hs, _⟩ := hin
          cases hs
  | cons h outer =>
      obtain ⟨hlt, sec, hsec, _⟩ := hadmits.chained h outer haround
      have hmem : h ∈ q.around := by
        rw [haround]
        exact List.mem_cons_self
      -- The innermost section around `q` starts before `p`: it is neither `p` nor inside
      -- of it.
      have hbefore : h.id.raw < i := by
        rcases Nat.lt_trichotomy h.id.raw i with hlow | hsame | hhigh
        · exact hlow
        · have hinside : q.isInside (some ⟨i⟩) = true :=
            Placed.isInside_some_iff.2 ⟨h, hmem, congrArg StatementId.mk hsame⟩
          rw [hinside] at hout
          cases hout
        · obtain ⟨s, hs, hid⟩ := Placed.isInside_some_iff.1 (hbetween _ _ hhigh hlt hsec)
          have hinside : q.isInside (some ⟨i⟩) = true := by
            refine Placed.isInside_some_iff.2 ⟨s, ?_, hid⟩
            rw [haround]
            exact List.mem_cons_of_mem h hs
          rw [hinside] at hout
          cases hout
      have hcommon : h ∈ p.around := hadmits.contiguous h hmem i p hbefore hik hp
      cases hp' : p.around with
      | nil =>
          rw [hp'] at hcommon
          cases hcommon
      | cons s outer' =>
          have hbody : p.parent? = some s.id := by
            simp [Placed.parent?, hp']
          rw [hbody, Placed.isInside_some_iff, haround] at hin
          obtain ⟨s', hs', hid⟩ := hin
          have hpPairwise := (hnested.pairwise (hnested i p hp)).2
          have hqPairwise := (hnested.pairwise hadmits).2
          rw [hp'] at hcommon hpPairwise
          rw [haround] at hqPairwise
          have hle : h.id.raw ≤ s.id.raw := by
            rcases List.mem_cons.1 hcommon with rfl | hcommon
            · exact Nat.le_refl _
            · exact Nat.le_of_lt ((List.pairwise_cons.1 hpPairwise).1 h hcommon)
          have hge : s.id.raw ≤ h.id.raw := by
            rw [← hid]
            rcases List.mem_cons.1 hs' with rfl | hs'
            · exact Nat.le_refl _
            · exact Nat.le_of_lt ((List.pairwise_cons.1 hqPairwise).1 s' hs')
          have hsame : h.id = s.id := by
            have hraw := Nat.le_antisymm hle hge
            cases hh : h.id
            cases hs'' : s.id
            rw [hh, hs''] at hraw
            exact congrArg StatementId.mk hraw
          rw [hbody, Placed.parent?, haround, List.head?_cons, Option.map_some, hsame]

/-- Statements inside of another one are in none of the bodies around that. -/
theorem Nested.not_mem_children_of_isInside
    (hnested : l.Nested)
    (hp : l[i]? = some p)
    (hq : l[n]? = some q)
    (hinside : q.isInside (some ⟨i⟩) = true) :
    q.parent? ≠ p.parent? := by
  intro hsame
  obtain ⟨id, hparent, hle⟩ := hnested.le_parent? hp hq hinside
  rw [hparent] at hsame
  have hlt := hnested.parent?_lt hp hsame.symm
  omega

/-- The next statement is the one behind everything
inside, if that is in the same section. -/
theorem Nested.sibling?_of_end
    (hnested : l.Nested)
    (hp : l[i]? = some p)
    (hik : i < k)
    (hbetween : ∀ j r, i < j → j < k → l[j]? = some r → r.isInside (some ⟨i⟩) = true)
    (hout : ∀ q, l[k]? = some q → q.isInside (some ⟨i⟩) = false) :
    (∃ q, l[k]? = some q ∧ q.parent? = p.parent? ∧ l.sibling? i p = some ⟨k⟩) ∨
      ((∀ q, l[k]? = some q → q.isInside p.parent? = false) ∧
        l.sibling? i p = none) := by
  have hnone : ∀ other ∈ l.children p.parent?, i < other.raw → k ≤ other.raw := by
    intro other hother hlt
    refine Nat.le_of_not_lt fun hno => ?_
    obtain ⟨r, hr, hparent⟩ := mem_children_iff.1 hother
    have hinside := hbetween other.raw r hlt (by omega) hr
    exact hnested.not_mem_children_of_isInside hp hr hinside hparent
  by_cases hend : ∃ q, l[k]? = some q ∧ q.isInside p.parent? = true
  · obtain ⟨q, hq, hin⟩ := hend
    have hparent := hnested.parent?_eq_of_end hp hq hik hbetween (hout q hq) hin
    refine Or.inl ⟨q, hq, hparent, ?_⟩
    exact sibling?_eq_some (mem_children_iff.2 ⟨q, hq, hparent⟩) hik hnone
  · have hnot : ∀ q, l[k]? = some q → q.isInside p.parent? = false := by
      intro q hq
      cases hin : q.isInside p.parent? with
      | false =>
          rfl
      | true =>
          exact absurd ⟨q, hq, hin⟩ hend
    refine Or.inr ⟨hnot, sibling?_eq_none ?_⟩
    -- A later statement of the body would have the one at `k` in the same section.
    intro other hother
    refine Nat.le_of_not_lt fun hlt => ?_
    have hk := hnone other hother (by omega)
    have hlength := lt_length_of_mem_children hother
    obtain ⟨r, hr, hparent⟩ := mem_children_iff.1 hother
    have hk' : k < l.length := by omega
    have hfalse := hnot _ (List.getElem?_eq_getElem hk')
    cases hbody : p.parent? with
    | none =>
        rw [hbody] at hfalse
        cases hfalse
    | some id =>
        rw [hbody] at hfalse hparent
        have hid := hnested.parent?_lt hp hbody
        have htrue := hnested.isInside_of_le (List.getElem?_eq_getElem hk') hr
          (isInside_of_parent? hparent) (by omega) hk
        rw [htrue] at hfalse
        cases hfalse

end Nested

end Layout

namespace Trigger

section Describing

variable {t : Trigger H} {l : Layout H} {i base fuel : Nat} {p : Placed H}

theorem describeFrom_none
    (t : Trigger H) (fuel level : Nat) :
    t.describeFrom fuel none level = "" := by
  cases fuel <;> rfl

theorem describeFrom_some
    {id : StatementId} {node : Node H}
    (hnode : t.node? id = some node)
    (fuel level : Nat) :
    t.describeFrom (fuel + 1) (some id) level =
      (match node.statement with
        | .ofEffect e => line level (e.describe false)
        | .ofSection s =>
            line level (s.describe false ++ ":") ++
              t.describeFrom fuel node.body (level + 1)) ++
        t.describeFrom fuel node.next level := by
  cases hstatement : node.statement <;> simp only [describeFrom, hnode, hstatement]

/-- With so many rounds, whatever starts at a statement is described by the lines of the
body from there on, inner statements included. -/
def DescribesFrom
    (t : Trigger H) (l : Layout H) (base fuel : Nat) : Prop :=
  ∀ i p, l[i]? = some p → l.length ≤ i + fuel →
    t.describeFrom fuel (some ⟨i⟩) (base + p.around.length) =
      Layout.lines base ((l.drop i).takeWhile (Placed.isInside p.parent?))

theorem describeFrom_body
    (hnested : l.Nested)
    (ih : DescribesFrom t l base fuel)
    (hp : l[i]? = some p)
    (hfuel : l.length ≤ i + 1 + fuel) :
    t.describeFrom fuel (l.children (some ⟨i⟩)).head? (base + p.around.length + 1) =
      Layout.lines base ((l.drop (i + 1)).takeWhile (Placed.isInside (some ⟨i⟩))) := by
  by_cases hinner : ∃ q, l[i + 1]? = some q ∧ q.isInside (some ⟨i⟩) = true
  · obtain ⟨q, hq, hinside⟩ := hinner
    obtain ⟨hparent, hhead⟩ := hnested.children_of_isInside hp hq hinside
    obtain ⟨sec, _, haround⟩ := hnested.around_of_parent? hp hq hparent
    have hlevel : base + p.around.length + 1 = base + q.around.length := by
      rw [haround, List.length_cons]
      omega
    rw [hhead, hlevel, ih (i + 1) q hq hfuel, hparent]
  · have hnone : ∀ q, l[i + 1]? = some q → q.isInside (some ⟨i⟩) = false := by
      intro q hq
      cases hinside : q.isInside (some ⟨i⟩) with
      | false =>
          rfl
      | true =>
          exact absurd ⟨q, hq, hinside⟩ hinner
    have hempty : (l.drop (i + 1)).takeWhile (Placed.isInside (some ⟨i⟩)) = [] := by
      cases hdrop : l.drop (i + 1) with
      | nil =>
          rfl
      | cons q rest =>
          have hq : l[i + 1]? = some q := by
            rw [← List.head?_drop, hdrop]
            rfl
          rw [List.takeWhile_cons, hnone q hq]
          rfl
    rw [hnested.children_eq_nil hnone, hempty]
    exact describeFrom_none t fuel _

theorem describeFrom_next
    (hnested : l.Nested)
    (ih : DescribesFrom t l base fuel)
    (hp : l[i]? = some p)
    (hfuel : l.length ≤ i + 1 + fuel) :
    t.describeFrom fuel (l.sibling? i p) (base + p.around.length) =
      Layout.lines base
        (((l.drop (i + 1)).dropWhile (Placed.isInside (some ⟨i⟩))).takeWhile
          (Placed.isInside p.parent?)) := by
  obtain ⟨k, hk, hdrop, hbetween, hout⟩ :=
    Layout.exists_dropWhile_eq_drop (Placed.isInside (some ⟨i⟩)) l (i + 1)
  rw [hdrop]
  rcases hnested.sibling?_of_end hp hk hbetween hout with
    ⟨q, hq, hparent, hnext⟩ | ⟨hnot, hnext⟩
  · have haround := hnested.around_eq_of_parent? hp hq hparent
    rw [hnext, ← haround, ← hparent]
    exact ih k q hq (by omega)
  · rw [hnext, describeFrom_none]
    cases hrest : l.drop k with
    | nil =>
        rfl
    | cons q rest =>
        have hq : l[k]? = some q := by
          rw [← List.head?_drop, hrest]
          rfl
        rw [List.takeWhile_cons, hnot q hq]
        rfl

/-- Describing follows the links through the statements in their order. -/
theorem LinkedAs.describesFrom
    (h : t.LinkedAs l)
    (base fuel : Nat) :
    DescribesFrom t l base fuel := by
  induction fuel with
  | zero =>
      intro i p hp hfuel
      have := (List.getElem?_eq_some_iff.1 hp).1
      omega
  | succ fuel ih =>
      intro i p hp hfuel
      obtain ⟨hi, hget⟩ := List.getElem?_eq_some_iff.1 hp
      have hbody := describeFrom_body h.nested ih hp (by omega)
      have hnext := describeFrom_next h.nested ih hp (by omega)
      have hsplit :
          (l.drop i).takeWhile (Placed.isInside p.parent?) =
            p :: ((l.drop (i + 1)).takeWhile (Placed.isInside (some ⟨i⟩)) ++
              ((l.drop (i + 1)).dropWhile (Placed.isInside (some ⟨i⟩))).takeWhile
                (Placed.isInside p.parent?)) := by
        rw [List.drop_eq_getElem_cons hi, hget, List.takeWhile_cons, p.isInside_parent?]
        rw [if_pos rfl, Layout.takeWhile_eq_append]
        intro q hq hinside
        obtain ⟨m, hm⟩ := List.mem_iff_getElem?.1 hq
        rw [List.getElem?_drop] at hm
        exact h.nested.isInside_parent? hp hm hinside
      rw [hsplit, Layout.lines, Layout.lines_append, ← hbody, ← hnext,
        describeFrom_some (h.node?_eq hp)]
      cases hstatement : p.statement with
      | ofEffect e =>
          have hempty : l.children (some ⟨i⟩) = [] := by
            rw [List.eq_nil_iff_forall_not_mem]
            intro other hother
            obtain ⟨q, hq, hparent⟩ := Layout.mem_children_iff.1 hother
            obtain ⟨sec, hsec, _⟩ := h.nested.around_of_parent? hp hq hparent
            rw [hstatement] at hsec
            cases hsec
          simp [Layout.node, hstatement, Placed.text, hempty, describeFrom_none]
      | ofSection s =>
          simp [Layout.node, hstatement, Placed.text, String.append_assoc]

/-- The first statement of a script is at the top
level, and everything comes behind it. -/
theorem LinkedAs.describeFrom_first
    (h : t.LinkedAs l)
    (base : Nat) :
    t.describeFrom (t.size + 1) t.first base = Layout.lines base l := by
  cases l with
  | nil =>
      rw [h.first]
      exact describeFrom_none t _ base
  | cons p rest =>
      have hp : (p :: rest)[0]? = some p := rfl
      have haround : p.around = [] := by
        cases haround : p.around with
        | nil =>
            rfl
        | cons s outer =>
            have hlt := ((h.nested 0 p hp).chained s outer haround).1
            omega
      have hparent : p.parent? = none := by
        simp [Placed.parent?, haround]
      have hhead : (Layout.children (p :: rest) none).head? = some ⟨0⟩ := by
        refine Layout.head?_children_eq_some
          (Layout.mem_children_iff.2 ⟨p, hp, hparent⟩) ?_
        intro other _
        exact Nat.zero_le _
      have hfuel : (p :: rest).length ≤ 0 + (t.size + 1) := by
        simp [size, h.nodes, Layout.nodes]
      have hall : (p :: rest).takeWhile (Placed.isInside none) = p :: rest := by
        rw [List.takeWhile_eq_self_iff]
        intro q _
        rfl
      have hdescribed := h.describesFrom base (t.size + 1) 0 p hp hfuel
      rw [haround, hparent, List.drop_zero, hall] at hdescribed
      rw [h.first, hhead]
      exact hdescribed

/-- A script that is linked like a nested layout
is described by the lines of the layout. -/
theorem LinkedAs.describe_eq
    {ledger : Ledger H}
    (h : t.LinkedAs ledger.layout)
    (hevent : t.event = ledger.event) :
    t.describe = ledger.describe := by
  unfold describe Ledger.describe
  rw [hevent]
  cases ledger.event with
  | none =>
      exact h.describeFrom_first 0
  | some e =>
      simp only [h.describeFrom_first 1]

end Describing

end Trigger

namespace Assembly

open Report

section Nested

/-- A host without anything of its own. -/
def bareHost : Host := ⟨Unit, Unit⟩

def remark
    (words : String) : Blueprint bareHost (Effect bareHost) where
  bare := { describe := fun _ => words, execute := fun v => v.toStore }
  init := fun _ _ => .ok { describe := fun _ => words, execute := fun v => v.toStore }

/-- A section that is refused without an error. -/
def declined : Blueprint bareHost (Section bareHost) where
  bare :=
    { describe := fun _ => "declined"
      walk := fun v place _ => (place.after, v.toStore) }
  init := fun _ _ => .error (Diagnostic.warning .rejectedElement)

def always : Blueprint bareHost (Event bareHost) where
  bare := { describe := fun _ => "always", check := fun v => (true, v.world) }
  init := fun _ _ =>
    .ok { describe := fun _ => "always", check := fun v => (true, v.world) }

/-- A loop with a declined section in it, which takes two
remarks along, and a condition that is never closed. -/
def openEnded : Journal bareHost :=
  [.effect (remark "last") [] ⟨0, 0⟩,
   .openSection conditionalBlueprint [literal []] ⟨0, 0⟩,
   .effect (remark "behind") [] ⟨0, 0⟩,
   .closeSection,
   .effect (remark "inside") [] ⟨0, 0⟩,
   .closeSection,
   .effect (remark "lost") [] ⟨0, 0⟩,
   .closeSection,
   .effect (remark "lost, too") [] ⟨0, 0⟩,
   .openSection loopBlueprint [literal []] ⟨0, 0⟩,
   .openSection declined [] ⟨0, 0⟩,
   .openSection loopBlueprint [literal []] ⟨0, 0⟩,
   .setEvent always [] ⟨0, 0⟩]

example :
    (Ledger.ofJournal TypeSystem.initial openEnded).layout.map
        (fun p => (p.text, p.around.length)) =
      [("loop :", 0), ("inside", 1), ("behind", 0), ("if :", 0), ("last", 1)] := by
  rfl

end Nested

end Assembly

end Script
end TriggerScript
