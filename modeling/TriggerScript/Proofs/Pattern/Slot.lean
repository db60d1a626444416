import TriggerScript.Pattern.Slot
import TriggerScript.Pattern.Writing
import TriggerScript.Proofs.Text.Parts

/-!
# Slots are read as they are written

A slot that was read has at least one type, and its type names are trimmed and made of
the characters that may stand in one. Written with its modifiers in front, such a slot is
read as itself again.
-/

namespace TriggerScript
namespace Pattern

/-- Whether a text is a type name. -/
structure IsName
    (cs : List Char) : Prop where
  ne_nil : cs ≠ []
  trimmed : Text.Trimmed cs
  nameChars : ∀ c ∈ cs, isNameChar c = true

/-- Whether a slot has at least one type, and names for its types only. -/
structure Slot.WellFormed
    (s : Slot) : Prop where
  types_ne_nil : s.types ≠ []
  names : ∀ name ∈ s.types, IsName name.toList

theorem not_isNameChar :
    isNameChar '%' = false ∧ isNameChar '/' = false ∧ isNameChar '-' = false ∧
      isNameChar '=' = false ∧ isNameChar '~' = false ∧ isNameChar '*' = false := by
  decide +kernel

theorem IsName.not_mem
    {cs : List Char} {c : Char}
    (h : IsName cs)
    (hc : isNameChar c = false) :
    c ∉ cs := by
  intro hmem
  rw [h.nameChars c hmem] at hc
  cases hc

theorem IsName.readName_eq
    {name : String}
    (h : IsName name.toList) :
    readName name.toList = .ok name := by
  have hfind : name.toList.find? (fun c => !isNameChar c) = none := by
    rw [List.find?_eq_none]
    intro c hc
    simp [h.nameChars c hc]
  unfold readName
  rw [h.trimmed.trim_eq]
  simp [h.ne_nil, hfind]

theorem isName_of_readName
    {cs : List Char} {name : String}
    (h : readName cs = .ok name) :
    IsName name.toList := by
  unfold readName at h
  dsimp only at h
  split at h
  · cases h
  · rename_i hempty
    split at h
    · cases h
    · rename_i hfind
      cases h
      rw [String.toList_ofList]
      refine ⟨by simpa using hempty, Text.trimmed_trim cs, fun c hc => ?_⟩
      rw [List.find?_eq_none] at hfind
      simpa using hfind c hc

/-- What is read as type names are type names, one for each part. -/
theorem isName_of_readNames
    {parts : List (List Char)} {names : List String}
    (h : readNames parts = .ok names) :
    names.length = parts.length ∧ ∀ name ∈ names, IsName name.toList := by
  induction parts generalizing names with
  | nil =>
      cases h
      simp
  | cons part parts ih =>
      unfold readNames at h
      split at h
      · cases h
      · rename_i name hname
        split at h
        · cases h
        · rename_i others hothers
          cases h
          obtain ⟨hlength, hnames⟩ := ih hothers
          refine ⟨by simp [hlength], ?_⟩
          rw [List.forall_mem_cons]
          exact ⟨isName_of_readName hname, hnames⟩

theorem readNames_map_toList
    {names : List String}
    (h : ∀ name ∈ names, IsName name.toList) :
    readNames (names.map String.toList) = .ok names := by
  induction names with
  | nil =>
      rfl
  | cons name names ih =>
      rw [List.forall_mem_cons] at h
      rw [List.map_cons, readNames, h.1.readName_eq, ih h.2]

/-- What is read as a slot has at least one type, and names for its types only. -/
theorem wellFormed_of_readSlotBody
    {body : List Char} {s : Slot}
    (h : readSlotBody body = .ok s) :
    s.WellFormed := by
  unfold readSlotBody at h
  split at h
  · cases h
  · rename_i m rest hmodifiers
    split at h
    · cases h
    · rename_i names hnames
      cases h
      obtain ⟨hlength, hnames⟩ := isName_of_readNames hnames
      refine ⟨?_, hnames⟩
      rintro rfl
      rw [Text.splitOn_eq] at hlength
      exact List.splitOn_ne_nil _ _ (List.length_eq_zero_iff.1 hlength.symm)

namespace Slot

/-- The names of the types of a slot with slashes between them. -/
def writeTypes
    (s : Slot) : List Char :=
  ((s.types.map String.toList).intersperse ['/']).flatten

theorem write_eq
    (s : Slot) :
    s.write = '%' :: (s.writeModifiers ++ s.writeTypes ++ ['%']) := by
  rfl

end Slot

/-- Names with slashes between them are a trimmed
text that starts with a name character. -/
theorem trimmed_flatten_intersperse
    {names : List (List Char)}
    (hne : names ≠ [])
    (h : ∀ name ∈ names, IsName name) :
    Text.Trimmed (names.intersperse ['/']).flatten ∧
      ∃ c cs, (names.intersperse ['/']).flatten = c :: cs ∧ isNameChar c = true := by
  induction names with
  | nil =>
      exact absurd rfl hne
  | cons name names ih =>
      rw [List.forall_mem_cons] at h
      obtain ⟨hname, hnames⟩ := h
      obtain ⟨c, cs, rfl⟩ := List.exists_cons_of_ne_nil hname.ne_nil
      have hc := hname.nameChars c (by simp)
      cases names with
      | nil =>
          rw [List.intersperse_singleton, List.flatten_singleton]
          exact ⟨hname.trimmed, c, cs, rfl, hc⟩
      | cons other others =>
          obtain ⟨hrest, d, ds, hcons, -⟩ := ih (by simp) hnames
          have hslash : ∀ c ∈ ['/'].head?, Text.isBlank c = false := by
            rintro _ ⟨⟩
            rfl
          rw [List.intersperse_cons_cons, List.flatten_cons, List.flatten_cons]
          refine ⟨?_, c, _, rfl, hc⟩
          exact (hrest.append hslash (by simp [hcons])).append hname.trimmed.1 (by simp)

/-- No character but those of its names and slashes stands in them. -/
theorem not_mem_flatten_intersperse
    {names : List (List Char)} {c : Char}
    (h : ∀ name ∈ names, IsName name)
    (hc : isNameChar c = false)
    (hslash : c ≠ '/') :
    c ∉ (names.intersperse ['/']).flatten := by
  induction names with
  | nil =>
      simp
  | cons name names ih =>
      rw [List.forall_mem_cons] at h
      cases names with
      | nil =>
          rw [List.intersperse_singleton, List.flatten_singleton]
          exact h.1.not_mem hc
      | cons other others =>
          rw [List.intersperse_cons_cons, List.flatten_cons, List.flatten_cons]
          simp only [List.mem_append, List.mem_singleton, not_or]
          exact ⟨h.1.not_mem hc, hslash, ih h.2⟩

namespace Slot

theorem readModifiers_writeModifiers
    (s : Slot) {c : Char}
    (hc : isNameChar c = true)
    (cs : List Char) :
    readModifiers Modifiers.none (s.writeModifiers ++ c :: cs) =
      .ok (⟨s.acceptance, s.conditional, s.nullable⟩, c :: cs) := by
  have hstop : ∀ m, readModifiers m (c :: cs) = .ok (m, c :: cs) := by
    intro m
    rw [readModifiers]
    all_goals
      intro tail heq
      cases heq
      simp [not_isNameChar] at hc
  obtain ⟨types, acceptance, conditional, nullable⟩ := s
  cases nullable <;> cases conditional <;> cases acceptance <;>
    simp [writeModifiers, readModifiers, Modifiers.none, hstop]

theorem mem_writeModifiers
    {s : Slot} {c : Char}
    (h : c ∈ s.writeModifiers) :
    c = '-' ∨ c = '~' ∨ c = '*' ∨ c = '=' := by
  obtain ⟨types, acceptance, conditional, nullable⟩ := s
  revert h
  cases nullable <;> cases conditional <;> cases acceptance <;>
    simp [writeModifiers] <;> tauto

variable {s : Slot}

theorem WellFormed.not_mem
    (h : s.WellFormed) :
    '%' ∉ s.writeModifiers ++ s.writeTypes := by
  rw [List.mem_append, not_or]
  constructor
  · intro hmem
    rcases mem_writeModifiers hmem with heq | heq | heq | heq <;> cases heq
  · refine not_mem_flatten_intersperse ?_ not_isNameChar.1 (by decide)
    simpa using h.names

theorem WellFormed.readSlotBody_eq
    (h : s.WellFormed) :
    readSlotBody (s.writeModifiers ++ s.writeTypes) = .ok s := by
  have hnames : ∀ name ∈ s.types.map String.toList, IsName name := by
    simpa using h.names
  have hne : s.types.map String.toList ≠ [] := by
    simpa using h.types_ne_nil
  obtain ⟨htrimmed, c, cs, htypes, hc⟩ := trimmed_flatten_intersperse hne hnames
  have hblank : ∀ d ∈ s.writeModifiers, Text.isBlank d = false := by
    intro d hd
    rcases mem_writeModifiers hd with rfl | rfl | rfl | rfl <;> decide
  have htrim : Text.trim (s.writeModifiers ++ s.writeTypes) =
      s.writeModifiers ++ s.writeTypes := by
    refine (htrimmed.append (fun d hd => hblank d (List.mem_of_mem_head? hd)) ?_).trim_eq
    simp [htypes]
  have hsplit : Text.splitOn '/' s.writeTypes = s.types.map String.toList :=
    Text.splitOn_flatten_intersperse
      (fun name hname => (hnames name hname).not_mem not_isNameChar.2.1) hne
  unfold readSlotBody
  rw [htrim, show s.writeTypes = c :: cs from htypes,
    s.readModifiers_writeModifiers hc cs]
  simp only [← show s.writeTypes = c :: cs from htypes, hsplit,
    readNames_map_toList h.names]

end Slot

end Pattern
end TriggerScript
