import TriggerScript.Text.Bytes

/-!
# Offsets between characters

Cutting a text at byte offsets succeeds exactly between two characters, and then gives
the characters before and behind the cut. A text has at least as many bytes as
characters.
-/

namespace TriggerScript
namespace Text

theorem splitBytes?_append
    (before after : List Char) :
    splitBytes? (byteLength before) (before ++ after) = some (before, after) := by
  induction before with
  | nil =>
      cases after <;> rfl
  | cons c before ih =>
      have hpos := c.utf8Size_pos
      rw [List.cons_append, byteLength_cons, splitBytes?, if_neg (by omega),
        if_pos (by omega), Nat.add_sub_cancel_left, ih]
      rfl

theorem eq_append_of_splitBytes?
    {n : Nat} {cs before after : List Char}
    (h : splitBytes? n cs = some (before, after)) :
    cs = before ++ after ∧ byteLength before = n := by
  fun_induction splitBytes? n cs generalizing before with
  | case1 =>
      cases h
      exact ⟨rfl, rfl⟩
  | case2 n hn =>
      cases h
  | case3 c cs =>
      cases h
      exact ⟨rfl, rfl⟩
  | case4 n c cs hn hle ih =>
      simp only [Option.map_eq_some_iff, Prod.mk.injEq] at h
      obtain ⟨r, hr, rfl, rfl⟩ := h
      obtain ⟨rfl, hlength⟩ := ih hr
      refine ⟨rfl, ?_⟩
      rw [byteLength_cons, hlength]
      omega
  | case5 n c cs hn hle =>
      cases h

/-- A slice is found exactly where it stands. -/
theorem sliceBytes?_eq_some_iff
    {start stop : Nat} {cs slice : List Char} :
    sliceBytes? start stop cs = some slice ↔
      ∃ before after, cs = before ++ slice ++ after ∧ byteLength before = start ∧
        byteLength (before ++ slice) = stop := by
  constructor
  · intro h
    unfold sliceBytes? at h
    split at h
    · rename_i hle
      split at h
      · rename_i before rest hbefore
        simp only [Option.map_eq_some_iff] at h
        obtain ⟨⟨_, after⟩, hafter, rfl⟩ := h
        obtain ⟨rfl, hstart⟩ := eq_append_of_splitBytes? hbefore
        obtain ⟨rfl, hslice⟩ := eq_append_of_splitBytes? hafter
        refine ⟨before, after, (List.append_assoc _ _ _).symm, hstart, ?_⟩
        rw [byteLength_append, hstart, hslice]
        omega
      · cases h
    · cases h
  · rintro ⟨before, after, rfl, rfl, rfl⟩
    rw [sliceBytes?, if_pos (by simp), List.append_assoc, splitBytes?_append]
    simp [splitBytes?_append]

/-- The text behind an offset, if the offset falls between two characters. -/
def dropBytes?
    (n : Nat) (cs : List Char) : Option (List Char) :=
  (splitBytes? n cs).map Prod.snd

theorem dropBytes?_eq_some_iff
    {n : Nat} {cs rest : List Char} :
    dropBytes? n cs = some rest ↔
      ∃ before, cs = before ++ rest ∧ n = byteLength before := by
  constructor
  · intro h
    simp only [dropBytes?, Option.map_eq_some_iff] at h
    obtain ⟨⟨before, _⟩, hsplit, rfl⟩ := h
    obtain ⟨hcs, hn⟩ := eq_append_of_splitBytes? hsplit
    exact ⟨before, hcs, hn.symm⟩
  · rintro ⟨before, rfl, rfl⟩
    rw [dropBytes?, splitBytes?_append]
    rfl

theorem dropBytes?_add
    {n : Nat} {cs part rest : List Char}
    (h : dropBytes? n cs = some (part ++ rest)) :
    dropBytes? (n + byteLength part) cs = some rest := by
  obtain ⟨before, rfl, rfl⟩ := dropBytes?_eq_some_iff.1 h
  exact dropBytes?_eq_some_iff.2 ⟨before ++ part, by simp, by simp⟩

theorem dropBytes?_utf8Size
    {n : Nat} {c : Char} {cs rest : List Char}
    (h : dropBytes? n cs = some (c :: rest)) :
    dropBytes? (n + c.utf8Size) cs = some rest := by
  rw [← List.singleton_append] at h
  exact dropBytes?_add h

theorem le_of_dropBytes?
    {n : Nat} {cs rest : List Char}
    (h : dropBytes? n cs = some rest) :
    n ≤ byteLength cs := by
  obtain ⟨before, rfl, rfl⟩ := dropBytes?_eq_some_iff.1 h
  simp

theorem length_le_byteLength
    (cs : List Char) :
    cs.length ≤ byteLength cs := by
  induction cs with
  | nil =>
      exact Nat.le_refl 0
  | cons c cs ih =>
      rw [List.length_cons, byteLength_cons, Nat.add_comm]
      exact Nat.add_le_add c.utf8Size_pos ih

/-- A text has as many bytes as characters if each of them takes a single byte. -/
theorem byteLength_eq_length_iff
    {cs : List Char} :
    byteLength cs = cs.length ↔ ∀ c ∈ cs, c.utf8Size = 1 := by
  induction cs with
  | nil =>
      simp
  | cons c cs ih =>
      have hpos := c.utf8Size_pos
      have hle := length_le_byteLength cs
      rw [List.forall_mem_cons, ← ih, byteLength_cons, List.length_cons]
      omega

end Text
end TriggerScript
