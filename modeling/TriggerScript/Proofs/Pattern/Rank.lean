import TriggerScript.Pattern.Rank

/-!
# Bounds of ranks

The rank of a pattern is at most that of a text: a compound or a choice is ranked by the
lowest of what stands in it, and the rank of a text is where the search for the lowest
starts.
-/

namespace TriggerScript
namespace Pattern
namespace Tree

/-- A run is ranked below what is left of it, or by its first part. -/
theorem rankOfRun?_cons_cases
    {t : Tree} {ts : List Tree} {n : Nat}
    (h : rankOfRun? (t :: ts) = some n) :
    (∃ others, rankOfRun? ts = some others ∧ n ≤ others) ∨ t.rank? = some n := by
  unfold rankOfRun? at h
  split at h
  · rename_i heq
    cases heq
  · rename_i heq
    cases heq
    split at h
    · rename_i others _ hothers
      cases h
      exact Or.inl ⟨others, hothers, Nat.min_le_right _ _⟩
    · cases h
  · rename_i heq
    cases heq
    split at h
    · exact Or.inl ⟨n, h, Nat.le_refl n⟩
    · exact Or.inr h

mutual

/-- No pattern has a higher rank than a text. -/
theorem le_textRank_of_rank? :
    (t : Tree) → ∀ {n : Nat}, t.rank? = some n → n ≤ textRank
  | .text _, n, h => by
      simp only [rank?, Option.some.injEq] at h
      omega
  | .optional _, n, h => by
      simp only [rank?, reduceCtorEq] at h
  | .choice alternatives, n, h => by
      rw [rank?] at h
      exact le_textRank_of_rankOfAlternatives? alternatives h
  | .capture _, n, h => by
      simp only [rank?, Option.some.injEq] at h
      subst h
      decide
  | .slot _, n, h => by
      simp only [rank?, Option.some.injEq] at h
      subst h
      decide
  | .compound children, n, h => by
      rw [rank?] at h
      split at h
      · cases h
      · rename_i rank hrun
        have hrank := le_textRank_of_rankOfRun? children hrun
        split at h
        · cases h
          exact Nat.le_trans (Nat.min_le_left _ _) hrank
        · cases h
          exact hrank

theorem le_textRank_of_rankOfAlternatives? :
    (as : List (Marked Tree)) →
      ∀ {n : Nat}, rankOfAlternatives? as = some n → n ≤ textRank
  | [], n, h => by
      simp only [rankOfAlternatives?, Option.some.injEq] at h
      omega
  | ⟨_, t⟩ :: as, n, h => by
      rw [rankOfAlternatives?] at h
      split at h
      · rename_i rank others hrank hothers
        cases h
        exact Nat.le_trans (Nat.min_le_left _ _) (le_textRank_of_rank? t hrank)
      · cases h

theorem le_textRank_of_rankOfRun? :
    (ts : List Tree) → ∀ {n : Nat}, rankOfRun? ts = some n → n ≤ textRank
  | [], n, h => by
      simp only [rankOfRun?, Option.some.injEq] at h
      omega
  | t :: ts, n, h => by
      rcases rankOfRun?_cons_cases h with ⟨others, hothers, hle⟩ | hfirst
      · exact Nat.le_trans hle (le_textRank_of_rankOfRun? ts hothers)
      · exact le_textRank_of_rank? t hfirst

end

end Tree
end Pattern
end TriggerScript
