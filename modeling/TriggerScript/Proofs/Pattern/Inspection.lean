import Mathlib.Order.Bounds.Basic
import TriggerScript.Proofs.Pattern.Rank

/-!
# What a pattern is ranked by

The rank of a tree depends on those of its parts that are inspected: the tree itself, the
alternatives of a choice, and the leading run of a compound without the optional groups
in it. A tree has no rank exactly if an optional group is inspected, and otherwise its
rank is the lowest of what the inspected parts limit it to.
-/

namespace TriggerScript
namespace Pattern
namespace Tree

/-- Whether the leading run of a compound goes on behind one of its parts. -/
def continuesRun : Tree → Bool
  | .optional _ => true
  | t => t.isBlankText

/-- The parts of a compound up to and including the
first one that is neither optional nor blank. -/
def leadingRun : List Tree → List Tree
  | [] => []
  | t :: ts => if t.continuesRun then t :: leadingRun ts else [t]

/-- A tree without the optional group around it. -/
def content : Tree → Tree
  | .optional inner => inner
  | t => t

/-- The trees that are inspected along with a tree: the alternatives of a choice, and of
a compound its leading run, where optional groups give way to what is in them. -/
def inspectedNext : Tree → List Tree
  | .choice as => as.map Marked.body
  | .compound ts => (leadingRun ts).map content
  | _ => []

/-- The parts of a tree that are inspected to rank it. -/
inductive Inspected
    (root : Tree) : Tree → Prop
  | root :
      Inspected root root
  | next
      {t u : Tree}
      (whole : Inspected root t)
      (mem : u ∈ t.inspectedNext) :
      Inspected root u

def inspected
    (t : Tree) : Set Tree :=
  {u | Inspected t u}

def inspectedOfAll
    (ts : List Tree) : Set Tree :=
  {u | ∃ t ∈ ts, u ∈ t.inspected}

/-- What inspected parts limit a rank to. -/
inductive Limits
    (parts : Set Tree) : Nat → Prop
  /-- No rank is higher than that of a text. -/
  | text :
      Limits parts 5
  | slot
      {s : Slot}
      (mem : .slot s ∈ parts) :
      Limits parts 2
  | capture
      {body : String}
      (mem : .capture body ∈ parts) :
      Limits parts 1
  /-- A capture counts wherever it stands in a compound. -/
  | compound
      {ts : List Tree} {body : String}
      (mem : .compound ts ∈ parts)
      (capture : .capture body ∈ ts) :
      Limits parts 3

/-- Whether inspected parts lead to a rank, or to none
because there is an optional group among them. -/
def Ranks
    (parts : Set Tree) : Option Nat → Prop
  | none => ∃ inner, .optional inner ∈ parts
  | some n => (∀ inner, .optional inner ∉ parts) ∧ IsLeast {m | Limits parts m} n

section Inspected

variable {t u v : Tree}

theorem Inspected.trans
    (h : Inspected t u)
    (h' : Inspected u v) :
    Inspected t v := by
  induction h' with
  | root =>
      exact h
  | next _ mem ih =>
      exact .next ih mem

/-- A tree is inspected, and whatever is inspected of the trees that come next. -/
theorem inspected_eq
    (t : Tree) :
    t.inspected = insert t (inspectedOfAll t.inspectedNext) := by
  ext u
  rw [Set.mem_insert_iff]
  constructor
  · intro hu
    induction hu with
    | root =>
        exact .inl rfl
    | next _ mem ih =>
        rcases ih with rfl | ⟨first, hfirst, hinspected⟩
        · exact .inr ⟨_, mem, .root⟩
        · exact .inr ⟨first, hfirst, .next hinspected mem⟩
  · rintro (rfl | ⟨first, hfirst, hinspected⟩)
    · exact .root
    · exact Inspected.trans (.next .root hfirst) hinspected

theorem inspectedOfAll_nil :
    inspectedOfAll [] = ∅ := by
  simp [inspectedOfAll]

theorem inspectedOfAll_cons
    (t : Tree) (ts : List Tree) :
    inspectedOfAll (t :: ts) = t.inspected ∪ inspectedOfAll ts := by
  ext u
  simp [inspectedOfAll]

end Inspected

section Ranks

variable {parts others : Set Tree} {t : Tree} {ts : List Tree} {r r' : Option Nat}

/-- The rank that a tree would have if nothing else were inspected. -/
def ownRank? : Tree → Option Nat
  | .optional _ => none
  | .slot _ => some 2
  | .capture _ => some 1
  | .compound ts => some (if ts.any isCapture then 3 else 5)
  | _ => some 5

/-- The lowest rank of several trees, if all of them have one. -/
def lowestRank? : List Tree → Option Nat
  | [] => some 5
  | t :: ts => min t.rank? (lowestRank? ts)

theorem limits_union :
    {m | Limits (parts ∪ others) m} = {m | Limits parts m} ∪ {m | Limits others m} := by
  ext m
  constructor
  · rintro (_ | mem | mem | ⟨mem, capture⟩)
    · exact .inl .text
    · exact mem.imp .slot .slot
    · exact mem.imp .capture .capture
    · exact mem.imp (.compound · capture) (.compound · capture)
  · rintro ((_ | mem | mem | ⟨mem, capture⟩) | (_ | mem | mem | ⟨mem, capture⟩))
    · exact .text
    · exact .slot (.inl mem)
    · exact .capture (.inl mem)
    · exact .compound (.inl mem) capture
    · exact .text
    · exact .slot (.inr mem)
    · exact .capture (.inr mem)
    · exact .compound (.inr mem) capture

theorem Ranks.union
    (h : Ranks parts r)
    (h' : Ranks others r') :
    Ranks (parts ∪ others) (min r r') := by
  cases r with
  | none =>
      obtain ⟨inner, hinner⟩ := h
      rw [Option.min_none_left]
      exact ⟨inner, .inl hinner⟩
  | some m =>
      cases r' with
      | none =>
          obtain ⟨inner, hinner⟩ := h'
          rw [Option.min_none_right]
          exact ⟨inner, .inr hinner⟩
      | some n =>
          rw [Option.min_some_some]
          refine ⟨fun inner => not_or.2 ⟨h.1 inner, h'.1 inner⟩, ?_⟩
          rw [limits_union]
          exact h.2.union h'.2

theorem ranks_empty :
    Ranks ∅ (some 5) := by
  refine ⟨fun _ => id, .text, ?_⟩
  rintro m (_ | mem | mem | ⟨mem, -⟩)
  · exact Nat.le_refl 5
  all_goals cases mem

theorem exists_capture_iff
    {ts : List Tree} :
    ts.any isCapture = true ↔ ∃ body, .capture body ∈ ts := by
  rw [List.any_eq_true]
  constructor
  · rintro ⟨t, ht, hcapture⟩
    cases t with
    | capture body => exact ⟨body, ht⟩
    | _ => cases hcapture
  · rintro ⟨body, hbody⟩
    exact ⟨_, hbody, rfl⟩

theorem ownRank?_le
    {n : Nat}
    (h : t.ownRank? = some n) :
    n ≤ 5 := by
  cases t with
  | optional inner =>
      cases h
  | compound ts =>
      simp only [ownRank?, Option.some.injEq] at h
      split at h <;> omega
  | _ =>
      cases h
      decide

theorem limits_singleton_iff
    {m : Nat} :
    Limits {t} m ↔ m = 5 ∨ t.ownRank? = some m := by
  constructor
  · rintro (_ | rfl | rfl | ⟨rfl, capture⟩)
    · exact .inl rfl
    · exact .inr rfl
    · exact .inr rfl
    · exact .inr (by rw [ownRank?, if_pos (exists_capture_iff.2 ⟨_, capture⟩)])
  · rintro (rfl | h)
    · exact .text
    · cases t with
      | optional inner =>
          cases h
      | slot s =>
          cases h
          exact .slot rfl
      | capture body =>
          cases h
          exact .capture rfl
      | compound ts =>
          rw [ownRank?] at h
          split at h
          · rename_i hcapture
            obtain ⟨body, hbody⟩ := exists_capture_iff.1 hcapture
            cases h
            exact .compound rfl hbody
          · cases h
            exact .text
      | _ =>
          cases h
          exact .text

theorem ranks_singleton
    (t : Tree) :
    Ranks {t} t.ownRank? := by
  cases h : t.ownRank? with
  | none =>
      cases t with
      | optional inner => exact ⟨inner, rfl⟩
      | _ => cases h
  | some n =>
      refine ⟨?_, limits_singleton_iff.2 (.inr h), ?_⟩
      · rintro inner rfl
        cases h
      · intro m hm
        rcases limits_singleton_iff.1 hm with rfl | hown
        · exact ownRank?_le h
        · rw [h] at hown
          cases hown
          exact Nat.le_refl n

end Ranks

section Recursion

theorem lowestRank?_le
    {ts : List Tree} {n : Nat}
    (h : lowestRank? ts = some n) :
    n ≤ 5 := by
  induction ts generalizing n with
  | nil =>
      cases h
      exact Nat.le_refl 5
  | cons t ts ih =>
      rw [lowestRank?] at h
      cases hrank : t.rank? with
      | none =>
          simp [hrank] at h
      | some rank =>
          cases hothers : lowestRank? ts with
          | none =>
              simp [hothers] at h
          | some others =>
              rw [hrank, hothers, Option.min_some_some] at h
              cases h
              exact Nat.le_trans (Nat.min_le_right _ _) (ih hothers)

/-- The rank of a text makes no other rank lower. -/
theorem min_textRank_lowestRank?
    (ts : List Tree) :
    min (some textRank) (lowestRank? ts) = lowestRank? ts := by
  cases h : lowestRank? ts with
  | none => rfl
  | some n => exact congrArg some (Nat.min_eq_right (lowestRank?_le h))

theorem rankOfAlternatives?_eq
    (as : List (Marked Tree)) :
    rankOfAlternatives? as = lowestRank? (as.map Marked.body) := by
  induction as with
  | nil =>
      rfl
  | cons a as ih =>
      rw [rankOfAlternatives?, ih, List.map_cons, lowestRank?]
      cases a.body.rank? <;> cases lowestRank? (as.map Marked.body) <;> rfl

theorem rankOfRun?_optional
    (inner : Tree) (ts : List Tree) :
    rankOfRun? (.optional inner :: ts) = min inner.rank? (rankOfRun? ts) := by
  rw [rankOfRun?]
  cases inner.rank? <;> cases rankOfRun? ts <;> rfl

theorem lowestRank?_singleton
    (t : Tree) :
    lowestRank? [t] = t.rank? := by
  cases h : t.rank? with
  | none =>
      simp [lowestRank?, h]
  | some n =>
      have hle : n ≤ 5 := le_textRank_of_rank? t h
      rw [lowestRank?, lowestRank?, h, Option.min_some_some, Nat.min_eq_left hle]

theorem rankOfRun?_eq
    (ts : List Tree) :
    rankOfRun? ts = lowestRank? ((leadingRun ts).map content) := by
  induction ts with
  | nil =>
      rfl
  | cons t ts ih =>
      cases t with
      | optional inner =>
          rw [rankOfRun?_optional, ih]
          rfl
      | text s =>
          cases hblank : isBlankText (.text s) with
          | false =>
              simp [rankOfRun?, leadingRun, continuesRun, content, hblank,
                lowestRank?_singleton]
          | true =>
              have hlow := min_textRank_lowestRank? ((leadingRun ts).map content)
              simp [rankOfRun?, leadingRun, continuesRun, content, hblank,
                lowestRank?, rank?, hlow, ih]
      | _ =>
          -- any other part ends the run
          simp [rankOfRun?, leadingRun, continuesRun, content, isBlankText,
            lowestRank?_singleton]

/-- A tree is ranked by itself and by what is inspected next. -/
theorem rank?_eq
    (t : Tree) :
    t.rank? = min t.ownRank? (lowestRank? t.inspectedNext) := by
  cases t with
  | choice as =>
      rw [rank?, rankOfAlternatives?_eq]
      exact (min_textRank_lowestRank? (as.map Marked.body)).symm
  | compound ts =>
      rw [rank?, rankOfRun?_eq, ownRank?, inspectedNext]
      cases hrun : lowestRank? ((leadingRun ts).map content) with
      | none =>
          rfl
      | some rank =>
          have hle := lowestRank?_le hrun
          cases ts.any isCapture with
          | false => exact congrArg some (Nat.min_eq_right hle).symm
          | true => exact congrArg some (Nat.min_comm rank 3)
  | _ =>
      rfl

theorem sizeOf_content_le
    (t : Tree) :
    sizeOf t.content ≤ sizeOf t := by
  cases t <;> simp [content]

theorem mem_of_mem_leadingRun
    {t : Tree} {ts : List Tree}
    (h : t ∈ leadingRun ts) :
    t ∈ ts := by
  induction ts with
  | nil =>
      exact h
  | cons u us ih =>
      rw [leadingRun] at h
      split at h
      · rcases List.mem_cons.1 h with rfl | h
        · exact List.mem_cons_self
        · exact List.mem_cons_of_mem _ (ih h)
      · rw [List.mem_singleton.1 h]
        exact List.mem_cons_self

theorem sizeOf_lt_of_mem_inspectedNext
    {t u : Tree}
    (h : u ∈ t.inspectedNext) :
    sizeOf u < sizeOf t := by
  cases t with
  | choice as =>
      obtain ⟨⟨mark, body⟩, ha, rfl⟩ := List.mem_map.1 h
      have hlt := List.sizeOf_lt_of_mem ha
      simp only [Marked.mk.sizeOf_spec, choice.sizeOf_spec] at hlt ⊢
      omega
  | compound ts =>
      obtain ⟨part, hpart, rfl⟩ := List.mem_map.1 h
      have hlt := List.sizeOf_lt_of_mem (mem_of_mem_leadingRun hpart)
      have hle := sizeOf_content_le part
      simp only [compound.sizeOf_spec]
      omega
  | _ =>
      cases h

theorem ranks_inspectedOfAll
    {ts : List Tree}
    (h : ∀ t ∈ ts, Ranks t.inspected t.rank?) :
    Ranks (inspectedOfAll ts) (lowestRank? ts) := by
  induction ts with
  | nil =>
      rw [inspectedOfAll_nil]
      exact ranks_empty
  | cons t ts ih =>
      obtain ⟨ht, hts⟩ := List.forall_mem_cons.1 h
      rw [inspectedOfAll_cons]
      exact ht.union (ih hts)

/-- What is inspected of a tree leads to its rank. -/
theorem ranks_inspected
    (t : Tree) :
    Ranks t.inspected t.rank? := by
  rw [inspected_eq, rank?_eq]
  exact (ranks_singleton t).union
    (ranks_inspectedOfAll fun u hu => ranks_inspected u)
termination_by sizeOf t
decreasing_by
  exact sizeOf_lt_of_mem_inspectedNext hu

end Recursion

/-- A tree has no rank exactly if an optional group is inspected, and otherwise its rank
is the lowest of what the inspected parts limit it to. -/
theorem rank?_spec
    (t : Tree) :
    (t.rank? = none ↔ ∃ inner, Inspected t (.optional inner)) ∧
      (∀ n, t.rank? = some n ↔
        (∀ inner, ¬Inspected t (.optional inner)) ∧
          IsLeast {m | Limits t.inspected m} n) ∧
      t.rank? ∈ [none, some 1, some 2, some 3, some 5] := by
  have hranks := ranks_inspected t
  cases hrank : t.rank? with
  | none =>
      rw [hrank] at hranks
      obtain ⟨inner, hinner⟩ := hranks
      refine ⟨iff_of_true rfl ⟨inner, hinner⟩, fun n => ?_, by simp⟩
      exact iff_of_false nofun fun h => h.1 inner hinner
  | some rank =>
      rw [hrank] at hranks
      obtain ⟨hoptional, hleast⟩ := hranks
      refine ⟨iff_of_false nofun fun h => h.elim hoptional, fun n => ⟨?_, ?_⟩, ?_⟩
      · rintro ⟨⟩
        exact ⟨hoptional, hleast⟩
      · rintro ⟨-, hleast'⟩
        rw [hleast.unique hleast']
      · have hlimits : Limits t.inspected rank := hleast.1
        cases hlimits <;> simp

end Tree
end Pattern
end TriggerScript
