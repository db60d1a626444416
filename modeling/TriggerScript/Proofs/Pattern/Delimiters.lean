import Mathlib.Data.List.TakeWhile
import TriggerScript.Pattern.Reading

/-!
# Finding delimiters

What the searches for the separator of a mark, the end of a capture and the end of a slot
find: each of them cuts a text in exactly one way.
-/

namespace TriggerScript
namespace Pattern

theorem isSpecial_of_isDigit
    {c : Char}
    (h : c.isDigit) :
    isSpecial c = false := by
  rw [← Bool.not_eq_true]
  intro hspecial
  simp only [isSpecial, Bool.or_eq_true, beq_iff_eq] at hspecial
  rcases hspecial with
    ((((((rfl | rfl) | rfl) | rfl) | rfl) | rfl) | rfl) | rfl <;> cases h

/-- What is found to be a mark makes up the text together with what comes after it. -/
theorem eq_append_of_splitMark?
    {cs digits rest : List Char} {mark : UInt32}
    (h : splitMark? cs = some (mark, digits, rest)) :
    cs = digits ++ markSeparator :: rest ∧
      (∀ c ∈ digits, c.isDigit) ∧ markOf? digits = some mark := by
  unfold splitMark? at h
  split at h
  · cases h
  · rename_i c tail hdrop
    split at h
    · rename_i hc
      simp only [Option.map_eq_some_iff, Prod.mk.injEq] at h
      obtain ⟨m, hm, rfl, rfl, rfl⟩ := h
      refine ⟨?_, fun d hd => ?_, hm⟩
      · rw [← hc, ← hdrop, List.takeWhile_append_dropWhile]
      · exact List.mem_takeWhile_imp hd
    · cases h

theorem splitMark?_digits
    {digits : List Char} {mark : UInt32}
    (hdigits : ∀ c ∈ digits, c.isDigit)
    (hmark : markOf? digits = some mark)
    (rest : List Char) :
    splitMark? (digits ++ markSeparator :: rest) = some (mark, digits, rest) := by
  have hsep : ¬ markSeparator.isDigit := by decide
  unfold splitMark?
  rw [List.dropWhile_append_of_pos hdigits, List.takeWhile_append_of_pos hdigits,
    List.dropWhile_cons_of_neg hsep, List.takeWhile_cons_of_neg hsep, List.append_nil]
  simp [hmark]

/-- Whether there is a mark does not depend on what
comes after a character that cannot be part of one. -/
theorem splitMark?_append_eq_none_iff
    {c : Char}
    (hdigit : c.isDigit = false)
    (hsep : c ≠ markSeparator)
    (cs rest : List Char) :
    splitMark? (cs ++ c :: rest) = none ↔ splitMark? cs = none := by
  unfold splitMark?
  rw [List.dropWhile_append]
  cases hdrop : cs.dropWhile Char.isDigit with
  | nil =>
      simp [hdigit, hsep]
  | cons d tail =>
      have htake :
          (cs ++ c :: rest).takeWhile Char.isDigit = cs.takeWhile Char.isDigit := by
        rw [List.takeWhile_append]
        split
        · rename_i hlen
          have hall := List.takeWhile_append_dropWhile (p := Char.isDigit) (l := cs)
          have := congrArg List.length hall
          simp [hdrop] at this
          omega
        · rfl
      simp [htake]

/-- What is found to be a capture makes up the text together
with what comes after it, and does not end in a backslash. -/
theorem eq_append_of_splitCapture?
    {cs body rest : List Char}
    (h : splitCapture? cs = some (body, rest)) :
    cs = escapeCapture body ++ '>' :: rest ∧ body.getLast? ≠ some '\\' := by
  fun_induction splitCapture? cs generalizing body rest with
  | case1 =>
      cases h
  | case2 cs =>
      cases h
      exact ⟨rfl, by simp⟩
  | case3 cs ih =>
      simp only [Option.map_eq_some_iff, Prod.mk.injEq] at h
      obtain ⟨r, hr, rfl, rfl⟩ := h
      obtain ⟨hcs, hlast⟩ := ih hr
      refine ⟨by simp [escapeCapture, hcs], ?_⟩
      cases hbody : r.1 with
      | nil => simp
      | cons d ds => rwa [List.getLast?_cons_cons, ← hbody]
  | case4 c cs hgt hescape ih =>
      simp only [Option.map_eq_some_iff, Prod.mk.injEq] at h
      obtain ⟨r, hr, rfl, rfl⟩ := h
      obtain ⟨hcs, hlast⟩ := ih hr
      refine ⟨by simp [escapeCapture, hcs, show c ≠ '>' from fun hc => hgt hc], ?_⟩
      cases hbody : r.1 with
      | nil =>
          -- the capture ends right behind `c`, so a backslash would have escaped its end
          rintro hc
          rw [hbody] at hcs
          exact hescape r.2 (by simpa using hc) (by simpa [escapeCapture] using hcs)
      | cons d ds => rwa [List.getLast?_cons_cons, ← hbody]

/-- A capture with its closing delimiters escaped
is found, unless it ends in a backslash. -/
theorem splitCapture?_escapeCapture
    {body : List Char}
    (hlast : body.getLast? ≠ some '\\')
    (rest : List Char) :
    splitCapture? (escapeCapture body ++ '>' :: rest) = some (body, rest) := by
  induction body with
  | nil =>
      rfl
  | cons c cs ih =>
      have hcs : cs.getLast? ≠ some '\\' := by
        cases cs with
        | nil => simp
        | cons d ds => rwa [List.getLast?_cons_cons] at hlast
      by_cases hc : c = '>'
      · subst hc
        simpa [escapeCapture, splitCapture?] using ih hcs
      · have hnext : ∀ tail, c = '\\' →
            escapeCapture cs ++ '>' :: rest ≠ '>' :: tail := by
          rintro tail rfl
          cases cs with
          | nil => simp at hlast
          | cons d ds =>
              by_cases hd : d = '>'
              · simp [escapeCapture, hd]
              · simp [escapeCapture, hd]
        have hstep : splitCapture? (c :: (escapeCapture cs ++ '>' :: rest)) =
            (splitCapture? (escapeCapture cs ++ '>' :: rest)).map fun r =>
              (c :: r.1, r.2) := by
          rw [splitCapture?]
          · exact fun h => hc h
          · exact hnext
        have hescape : escapeCapture (c :: cs) = c :: escapeCapture cs := by
          simp [escapeCapture, hc]
        rw [hescape, List.cons_append, hstep, ih hcs]
        rfl

theorem not_mem_of_splitAt?
    {mark : Char} {cs before after : List Char}
    (h : splitAt? mark cs = some (before, after)) :
    mark ∉ before := by
  induction cs generalizing before with
  | nil =>
      simp [splitAt?] at h
  | cons c cs ih =>
      unfold splitAt? at h
      split at h
      · cases h
        simp
      · rename_i hc
        simp only [Option.map_eq_some_iff, Prod.mk.injEq] at h
        obtain ⟨r, hr, rfl, rfl⟩ := h
        rw [List.mem_cons, not_or]
        exact ⟨fun h => hc h.symm, ih hr⟩

/-- A text is cut at an occurrence of a character if there is none before it. -/
theorem splitAt?_append
    {mark : Char} {before : List Char}
    (h : mark ∉ before)
    (after : List Char) :
    splitAt? mark (before ++ mark :: after) = some (before, after) := by
  induction before with
  | nil =>
      simp [splitAt?]
  | cons c cs ih =>
      rw [List.mem_cons, not_or] at h
      rw [List.cons_append, splitAt?, if_neg fun hc => h.1 hc.symm, ih h.2]
      rfl

end Pattern
end TriggerScript
