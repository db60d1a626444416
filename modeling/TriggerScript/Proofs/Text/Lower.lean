import TriggerScript.Text.Case

/-!
# Lower case is kept

The lower case of a text consists of characters that are their own lower case wherever
they stand, so that it does not change when it is taken once more. The table of runs
decides this: no run maps a character to one that a run covers.
-/

namespace TriggerScript
namespace Text

namespace CaseRun

variable {r r' : CaseRun} {n : Nat}

/-- The code point that a run maps one of its code points to. -/
def image
    (r : CaseRun) (n : Nat) : Nat :=
  ((n : Int) + r.shift).toNat

/-- Whether a run maps none of its code points to
one of another run, as bounds or parity show. -/
def avoids
    (r r' : CaseRun) : Bool :=
  Nat.blt (r.image r.last) r'.first || Nat.blt r'.last (r.image r.first)
    || ((r.step.beq 2 || r.first.beq r.last) && r'.step.beq 2
      && ((r.image r.first + r'.first) % 2).beq 1)

/-- Whether a run maps all its code points to characters. -/
def isProper
    (r : CaseRun) : Bool :=
  Nat.ble (-r.shift).toNat r.first
    && (Nat.blt (r.image r.last) 0xD800
      || (Nat.blt 0xDFFF (r.image r.first) && Nat.blt (r.image r.last) 0x110000))

theorem not_covers_image
    (hproper : r.isProper = true)
    (havoids : r.avoids r' = true)
    (hn : r.covers n = true) :
    ¬r'.covers (r.image n) = true := by
  intro hn'
  simp only [covers, Bool.and_eq_true, decide_eq_true_eq, beq_iff_eq] at hn hn'
  simp only [isProper, Bool.and_eq_true, Nat.ble_eq] at hproper
  simp only [avoids, Bool.or_eq_true, Bool.and_eq_true, Nat.blt_eq,
    Nat.beq_eq] at havoids
  simp only [image] at havoids hn'
  obtain ⟨hbounds, hstep⟩ := hn
  obtain ⟨hbounds', hstep'⟩ := hn'
  rcases havoids with (h | h) | ⟨⟨h | h, htwo⟩, hodd⟩
  · omega
  · omega
  · rw [h] at hstep
    rw [htwo] at hstep'
    omega
  · rw [htwo] at hstep'
    omega

theorem isValidChar_image
    (hproper : r.isProper = true)
    (hn : r.covers n = true) :
    (r.image n).isValidChar := by
  simp only [covers, Bool.and_eq_true, decide_eq_true_eq] at hn
  simp only [isProper, image, Bool.and_eq_true, Bool.or_eq_true, Nat.ble_eq, Nat.blt_eq]
    at hproper
  unfold Nat.isValidChar image
  omega

/-- The run of a single character that stays as it is. -/
def still
    (c : Char) : CaseRun :=
  ⟨c.toNat, c.toNat, 1, 0⟩

theorem covers_still
    (c : Char) :
    (still c).covers c.toNat = true := by
  simp [covers, still]

theorem image_still
    (c : Char) :
    (still c).image c.toNat = c.toNat := by
  simp [image, still]

end CaseRun

/-- The runs and the dotted capital I, which is in none of them. -/
def upperRuns : List CaseRun := .still '\u0130' :: lowerRuns

/-- What the dotted capital I and the capital sigma become. -/
def specialChars : List Char := ['i', '\u0307', 'ς', 'σ']

/-- The runs and, as runs of their own, what the special capitals become. -/
def mappings : List CaseRun := lowerRuns ++ specialChars.map CaseRun.still

theorem all_isProper_mappings :
    mappings.all CaseRun.isProper = true := by
  decide +kernel

theorem all_avoids_mappings :
    (mappings.all fun r => upperRuns.all r.avoids) = true := by
  decide +kernel

/-- Whether a character is its own lower case wherever it stands. -/
def IsLower
    (c : Char) : Prop :=
  c ≠ 'Σ' ∧ lowerChar c = [c]

theorem isLower_of_not_covers
    {c : Char}
    (h : ∀ r ∈ upperRuns, ¬r.covers c.toNat = true) :
    IsLower c := by
  obtain ⟨hdotted, hruns⟩ := List.forall_mem_cons.1 h
  constructor
  · rintro rfl
    have hsigma : ∃ r ∈ lowerRuns, r.covers 'Σ'.toNat = true := by decide +kernel
    obtain ⟨r, hr, hcovers⟩ := hsigma
    exact hruns r hr hcovers
  · have hne : c ≠ '\u0130' := by
      rintro rfl
      exact hdotted (CaseRun.covers_still _)
    rw [lowerChar, if_neg hne, List.find?_eq_none.2 hruns]

theorem toNat_ofNat_of_isValidChar
    {n : Nat}
    (h : n.isValidChar) :
    (Char.ofNat n).toNat = n := by
  rw [Char.ofNat, dif_pos h]
  rfl

/-- No run maps a character to one that is mapped further. -/
theorem isLower_image
    {r : CaseRun} {n : Nat}
    (hr : r ∈ mappings)
    (hn : r.covers n = true) :
    IsLower (Char.ofNat (r.image n)) := by
  have hproper := List.all_eq_true.1 all_isProper_mappings r hr
  have havoids := List.all_eq_true.1 (List.all_eq_true.1 all_avoids_mappings r hr)
  refine isLower_of_not_covers ?_
  intro r' hr'
  rw [toNat_ofNat_of_isValidChar (CaseRun.isValidChar_image hproper hn)]
  exact CaseRun.not_covers_image hproper (havoids r' hr') hn

theorem isLower_of_mem_specialChars
    {c : Char}
    (hc : c ∈ specialChars) :
    IsLower c := by
  have hstill : CaseRun.still c ∈ mappings :=
    List.mem_append_right lowerRuns (List.mem_map_of_mem hc)
  have himage := isLower_image hstill (CaseRun.covers_still c)
  rwa [CaseRun.image_still, Char.ofNat_toNat] at himage

/-- The lower case of a character is its own lower case. -/
theorem isLower_of_mem_lowerChar
    {c d : Char}
    (hc : c ≠ 'Σ')
    (hd : d ∈ lowerChar c) :
    IsLower d := by
  unfold lowerChar at hd
  split at hd
  · exact isLower_of_mem_specialChars (List.mem_append_left ['ς', 'σ'] hd)
  · rename_i hne
    split at hd
    · rename_i r hfind
      have hcovers := List.find?_some hfind
      rw [List.mem_singleton.1 hd]
      exact isLower_image
        (List.mem_append_left _ (List.mem_of_find?_eq_some hfind)) hcovers
    · rename_i hfind
      obtain rfl := List.mem_singleton.1 hd
      refine ⟨hc, ?_⟩
      rw [lowerChar, if_neg hne, hfind]

theorem isLower_of_mem_lowerFrom
    {before cs : List Char} {d : Char}
    (hd : d ∈ lowerFrom before cs) :
    IsLower d := by
  induction cs generalizing before with
  | nil =>
      cases hd
  | cons c cs ih =>
      rcases List.mem_append.1 hd with hd | hd
      · split at hd
        · refine isLower_of_mem_specialChars ?_
          split at hd <;> simp_all [specialChars]
        · rename_i hc
          exact isLower_of_mem_lowerChar hc hd
      · exact ih hd

theorem lowerFrom_of_isLower
    {cs : List Char}
    (h : ∀ c ∈ cs, IsLower c)
    (before : List Char) :
    lowerFrom before cs = cs := by
  induction cs generalizing before with
  | nil =>
      rfl
  | cons c cs ih =>
      obtain ⟨⟨hsigma, hc⟩, hcs⟩ := List.forall_mem_cons.1 h
      rw [lowerFrom, if_neg hsigma, hc, ih hcs]
      rfl

/-- The lower case of a text is its own lower case. -/
theorem lower_lower
    (s : String) :
    lower (lower s) = lower s := by
  have hlower : ∀ c ∈ lowerFrom [] s.toList, IsLower c := by
    intro c hc
    exact isLower_of_mem_lowerFrom hc
  rw [lower, lower, String.toList_ofList, lowerFrom_of_isLower hlower]

end Text
end TriggerScript
