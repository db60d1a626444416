import Mathlib.Data.List.DropRight
import Mathlib.Data.List.TakeWhile
import TriggerScript.Text.Blank
import TriggerScript.Text.Split

/-!
# Trimmed texts and parts of texts

A text is trimmed when it neither starts nor ends with a blank character: trimming gives
such a text, and does nothing to one. Parts with separators between them are found again
by splitting.
-/

namespace TriggerScript
namespace Text

/-- Whether a text neither starts nor ends with a blank character. -/
def Trimmed
    (cs : List Char) : Prop :=
  (∀ c ∈ cs.head?, isBlank c = false) ∧ (∀ c ∈ cs.getLast?, isBlank c = false)

theorem Trimmed.trim_eq
    {cs : List Char}
    (h : Trimmed cs) :
    trim cs = cs := by
  have hleft : trimLeft cs = cs := by
    cases cs with
    | nil =>
        rfl
    | cons c cs =>
        exact List.dropWhile_cons_of_neg (by simp [h.1 c rfl])
  have hright : trimRight cs = cs := by
    refine List.rdropWhile_eq_self_iff.2 fun hne => ?_
    simp [h.2 _ (List.getLast?_eq_some_getLast hne)]
  rw [trim, hleft, hright]

theorem trimmed_trim
    (cs : List Char) :
    Trimmed (trim cs) := by
  have hdrop : ∀ {ds : List Char} {c : Char},
      (ds.dropWhile isBlank).head? = some c → isBlank c = false := by
    intro ds c hc
    have hhead := List.head?_dropWhile_not isBlank ds
    rw [hc] at hhead
    simpa using hhead
  constructor
  · intro c hc
    -- the end is cut off behind what is first, so the first character stays
    obtain ⟨tail, htail⟩ := List.rdropWhile_prefix isBlank (l := trimLeft cs)
    have hfirst : (trimLeft cs).head? = some c := by
      rw [← htail, List.head?_append]
      exact congrArg (Option.or · tail.head?) hc
    exact hdrop hfirst
  · intro c hc
    rw [trim, trimRight, List.getLast?_reverse] at hc
    exact hdrop hc

/-- A trimmed text is still trimmed with a text in front that has no blank characters. -/
theorem Trimmed.append
    {cs ds : List Char}
    (hcs : ∀ c ∈ cs.head?, isBlank c = false)
    (hds : Trimmed ds)
    (hne : ds ≠ []) :
    Trimmed (cs ++ ds) := by
  constructor
  · intro c hc
    cases cs with
    | nil =>
        exact hds.1 c hc
    | cons d cs =>
        exact hcs c hc
  · intro c hc
    rw [List.getLast?_append_of_ne_nil _ hne] at hc
    exact hds.2 c hc

theorem splitOn_eq
    (separator : Char) (cs : List Char) :
    splitOn separator cs = cs.splitOn separator := by
  induction cs with
  | nil =>
      rfl
  | cons c cs ih =>
      rw [splitOn, ih, List.splitOn_cons_eq_if_modifyHead]
      by_cases hc : c = separator
      · simp [hc]
      · rw [if_neg hc, if_neg (by simp [hc])]
        cases hparts : cs.splitOn separator with
        | nil => exact absurd hparts (List.splitOn_ne_nil _ _)
        | cons part parts => rfl

/-- A part without a separator is split off the text behind the next one. -/
theorem splitOn_append_cons
    {separator : Char} {part : List Char}
    (h : separator ∉ part)
    (rest : List Char) :
    splitOn separator (part ++ separator :: rest) = part :: splitOn separator rest := by
  induction part with
  | nil =>
      rw [List.nil_append, splitOn, if_pos rfl]
  | cons c part ih =>
      rw [List.mem_cons, not_or] at h
      rw [List.cons_append, splitOn, if_neg (Ne.symm h.1), ih h.2]

theorem splitOn_of_not_mem
    {separator : Char} {part : List Char}
    (h : separator ∉ part) :
    splitOn separator part = [part] := by
  induction part with
  | nil =>
      rfl
  | cons c part ih =>
      rw [List.mem_cons, not_or] at h
      rw [splitOn, if_neg (Ne.symm h.1), ih h.2]

/-- Behind a part without a separator either the text ends or the next part starts. -/
theorem exists_splitOn_append
    {separator : Char} {part rest : List Char}
    (h : separator ∉ part)
    (hrest : ∀ c ∈ rest.head?, c = separator) :
    ∃ parts, splitOn separator (part ++ rest) = part :: parts := by
  cases rest with
  | nil =>
      rw [List.append_nil, splitOn_of_not_mem h]
      exact ⟨_, rfl⟩
  | cons c rest =>
      cases hrest c rfl
      exact ⟨_, splitOn_append_cons h rest⟩

/-- No part of a text has other characters than the text. -/
theorem mem_of_mem_splitOn
    {separator c : Char} {part cs : List Char}
    (h : part ∈ splitOn separator cs)
    (hc : c ∈ part) :
    c ∈ cs := by
  induction cs generalizing part with
  | nil =>
      cases List.mem_singleton.1 h
      exact hc
  | cons d cs ih =>
      unfold splitOn at h
      split at h
      · rcases List.mem_cons.1 h with rfl | hothers
        · cases hc
        · exact List.mem_cons_of_mem _ (ih hothers hc)
      · split at h
        · cases List.mem_singleton.1 h
          exact List.mem_singleton.1 hc ▸ List.mem_cons_self
        · rename_i first others hsplit
          rw [hsplit] at ih
          rcases List.mem_cons.1 h with rfl | hothers
          · rcases List.mem_cons.1 hc with rfl | hfirst
            · exact List.mem_cons_self
            · exact List.mem_cons_of_mem _ (ih List.mem_cons_self hfirst)
          · exact List.mem_cons_of_mem _ (ih (List.mem_cons_of_mem _ hothers) hc)

/-- Parts without separators are found again in the text that they make up. -/
theorem splitOn_flatten_intersperse
    {separator : Char} {parts : List (List Char)}
    (hparts : ∀ part ∈ parts, separator ∉ part)
    (hne : parts ≠ []) :
    splitOn separator (parts.intersperse [separator]).flatten = parts := by
  rw [splitOn_eq]
  exact List.splitOn_intercalate separator hparts hne

end Text
end TriggerScript
