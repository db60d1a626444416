import Mathlib.Data.List.Sort
import TriggerScript.Catalog.Entry

/-!
# Match order

Entries are in match order when their priorities descend and entries of one priority
stand in the order of their publication. There is only one such order, so it does not
matter how often entries were sorted while others came to them.
-/

namespace TriggerScript
namespace Catalog

variable {α : Type} [Ranked α]

/-- Whether the priorities descend from entry to entry. -/
def Descending
    (entries : List α) : Prop :=
  entries.Pairwise fun a b => Ranked.rank b ≤ Ranked.rank a

/-- The entries of one priority. -/
def ofRank
    (n : Nat) (entries : List α) : List α :=
  entries.filter fun a => Ranked.rank a == n

/-- Whether entries in the order of their publication were put into match order. -/
structure InMatchOrder
    (entries sorted : List α) : Prop where
  perm : sorted.Perm entries
  descending : Descending sorted
  /-- Entries of one priority are in the order of their publication. -/
  stable : ∀ n, ofRank n sorted = ofRank n entries

theorem ofRank_append
    (n : Nat) (xs ys : List α) :
    ofRank n (xs ++ ys) = ofRank n xs ++ ofRank n ys := by
  exact List.filter_append xs ys

theorem mem_ofRank_iff
    {n : Nat} {a : α} {entries : List α} :
    a ∈ ofRank n entries ↔ a ∈ entries ∧ Ranked.rank a = n := by
  simp [ofRank]

theorem ofRank_cons_self
    (a : α) (entries : List α) :
    ofRank (Ranked.rank a) (a :: entries) = a :: ofRank (Ranked.rank a) entries := by
  simp [ofRank]

section Sorting

theorem perm_sortByRank
    (entries : List α) :
    (sortByRank entries).Perm entries := by
  exact List.mergeSort_perm _ _

theorem sortByRank_trans
    (a b c : α)
    (hab : decide (Ranked.rank b ≤ Ranked.rank a) = true)
    (hbc : decide (Ranked.rank c ≤ Ranked.rank b) = true) :
    decide (Ranked.rank c ≤ Ranked.rank a) = true := by
  rw [decide_eq_true_eq] at *
  omega

theorem sortByRank_total
    (a b : α) :
    (decide (Ranked.rank b ≤ Ranked.rank a) || decide (Ranked.rank a ≤ Ranked.rank b)) =
      true := by
  rw [Bool.or_eq_true, decide_eq_true_eq, decide_eq_true_eq]
  omega

theorem descending_sortByRank
    (entries : List α) :
    Descending (sortByRank entries) := by
  have hsorted := List.pairwise_mergeSort sortByRank_trans sortByRank_total entries
  exact hsorted.imp fun h => of_decide_eq_true h

/-- Entries with descending priorities are found
in this order after others are sorted in. -/
theorem sublist_sortByRank
    {xs entries : List α}
    (hdescending : Descending xs)
    (h : xs.Sublist entries) :
    xs.Sublist (sortByRank entries) := by
  refine List.sublist_mergeSort sortByRank_trans sortByRank_total ?_ h
  exact hdescending.imp fun h => decide_eq_true h

/-- The entries of one priority keep their order. -/
theorem ofRank_sortByRank
    (n : Nat) (entries : List α) :
    ofRank n (sortByRank entries) = ofRank n entries := by
  have hdescending : Descending (ofRank n entries) := by
    refine List.pairwise_of_forall_mem_list ?_
    intro a ha b hb
    rw [(mem_ofRank_iff.1 ha).2, (mem_ofRank_iff.1 hb).2]
  have hsublist := sublist_sortByRank hdescending List.filter_sublist
  have hfilter : (ofRank n (ofRank n entries)).Sublist (ofRank n (sortByRank entries)) :=
    hsublist.filter _
  have hsame : ofRank n (ofRank n entries) = ofRank n entries := by
    simp [ofRank]
  rw [hsame] at hfilter
  have hlength : (ofRank n (sortByRank entries)).length = (ofRank n entries).length :=
    ((perm_sortByRank entries).filter _).length_eq
  exact (hfilter.eq_of_length hlength.symm).symm

theorem inMatchOrder_sortByRank
    (entries : List α) :
    InMatchOrder entries (sortByRank entries) := by
  constructor
  · exact perm_sortByRank entries
  · exact descending_sortByRank entries
  · intro n
    exact ofRank_sortByRank n entries

end Sorting

section Uniqueness

theorem rank_le_head
    {a b : α} {entries : List α}
    (h : Descending (b :: entries))
    (ha : a ∈ b :: entries) :
    Ranked.rank a ≤ Ranked.rank b := by
  rcases List.mem_cons.1 ha with rfl | ha
  · exact Nat.le_refl _
  · exact (List.pairwise_cons.1 h).1 a ha

theorem mem_iff_of_ofRank_eq
    {xs ys : List α}
    (h : ∀ n, ofRank n xs = ofRank n ys)
    (a : α) :
    a ∈ xs ↔ a ∈ ys := by
  have ha := congrArg (a ∈ ·) (h (Ranked.rank a))
  simpa [mem_ofRank_iff] using ha

/-- Entries with descending priorities are known from the entries of each priority. -/
theorem eq_of_ofRank_eq
    {xs ys : List α}
    (hxs : Descending xs)
    (hys : Descending ys)
    (h : ∀ n, ofRank n xs = ofRank n ys) :
    xs = ys := by
  induction xs generalizing ys with
  | nil =>
      cases ys with
      | nil =>
          rfl
      | cons b ys =>
          cases (mem_iff_of_ofRank_eq h b).2 List.mem_cons_self
  | cons a xs ih =>
      cases ys with
      | nil =>
          cases (mem_iff_of_ofRank_eq h a).1 List.mem_cons_self
      | cons b ys =>
          -- each head has the highest priority, so both are the first entry of that one
          have ha := (mem_iff_of_ofRank_eq h a).1 List.mem_cons_self
          have hb := (mem_iff_of_ofRank_eq h b).2 List.mem_cons_self
          have hrank : Ranked.rank a = Ranked.rank b :=
            Nat.le_antisymm (rank_le_head hys ha) (rank_le_head hxs hb)
          have hfirst := h (Ranked.rank a)
          rw [ofRank_cons_self, hrank, ofRank_cons_self] at hfirst
          obtain ⟨rfl, hothers⟩ := List.cons.inj hfirst
          have htail : ∀ n, ofRank n xs = ofRank n ys := by
            intro n
            by_cases hn : Ranked.rank a = n
            · subst hn
              exact hothers
            · simpa [ofRank, hn] using h n
          rw [ih (List.pairwise_cons.1 hxs).2 (List.pairwise_cons.1 hys).2 htail]

/-- Entries have one match order only. -/
theorem InMatchOrder.eq_sortByRank
    {entries sorted : List α}
    (h : InMatchOrder entries sorted) :
    sorted = sortByRank entries := by
  refine eq_of_ofRank_eq h.descending (descending_sortByRank entries) ?_
  intro n
  rw [h.stable n, ofRank_sortByRank]

/-- Sorting entries before others come to them makes no difference. -/
theorem sortByRank_sortByRank_append
    (xs ys : List α) :
    sortByRank (sortByRank xs ++ ys) = sortByRank (xs ++ ys) := by
  refine InMatchOrder.eq_sortByRank ⟨?_, descending_sortByRank _, ?_⟩
  · exact (perm_sortByRank _).trans ((perm_sortByRank xs).append_right ys)
  · intro n
    rw [ofRank_sortByRank, ofRank_append, ofRank_append, ofRank_sortByRank]

/-- Entries that come to others do not change the order of those. -/
theorem sortByRank_sublist
    (xs ys : List α) :
    (sortByRank xs).Sublist (sortByRank (xs ++ ys)) := by
  rw [← sortByRank_sortByRank_append]
  exact sublist_sortByRank (descending_sortByRank xs) (List.sublist_append_left _ _)

end Uniqueness

end Catalog
end TriggerScript
