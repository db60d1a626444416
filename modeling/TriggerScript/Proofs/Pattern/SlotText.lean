import TriggerScript.Proofs.Pattern.Slot

/-!
# The texts of slots

Which texts are the body of a slot, said without the functions that read one: a run of
modifiers, and behind it type names with slashes between them. A text is the body of at
most one slot, and it is read as that slot.
-/

namespace TriggerScript

namespace Text

theorem Ranges.has_eq_false
    {rs ss : Ranges} {c : Char}
    (hdisjoint : ∀ r ∈ rs, ∀ s ∈ ss, r.2 < s.1 ∨ s.2 < r.1)
    (h : rs.has c = true) :
    ss.has c = false := by
  obtain ⟨r, hr, hc⟩ := List.any_eq_true.1 h
  rw [Ranges.has, List.any_eq_false]
  intro s hs hcs
  simp only [Bool.and_eq_true, decide_eq_true_eq] at hc hcs
  rcases hdisjoint r hr s hs with hlt | hlt <;> omega

theorem isAlphanumeric_eq_false_of_isBlank
    {c : Char}
    (h : isBlank c = true) :
    isAlphanumeric c = false := by
  rw [isAlphanumeric, isAlphabetic, Ranges.has_eq_false (by decide +kernel) h,
    Ranges.has_eq_false (by decide +kernel) h]
  rfl

end Text

namespace Pattern

/-- The characters that modify a slot. -/
def IsModifier
    (c : Char) : Prop :=
  c = '-' ∨ c = '=' ∨ c = '~' ∨ c = '*'

namespace Modifiers

/-- What a run of modifiers asks for. -/
def ofChars
    (cs : List Char) : Modifiers :=
  { acceptance :=
      if '~' ∈ cs then .expressionsOnly else if '*' ∈ cs then .literalsOnly else .both
    conditional := '=' ∈ cs
    nullable := '-' ∈ cs }

end Modifiers

/-- Modifiers that do not ask for expressions only and for literals only at once. -/
structure ModifierText
    (cs : List Char) : Prop where
  isModifier : ∀ c ∈ cs, IsModifier c
  consistent : ¬('~' ∈ cs ∧ '*' ∈ cs)

/-- A text that is the body of a slot. Blanks around
it and around each of its names do not count. -/
inductive SlotText
    (body : List Char) : Slot → Prop
  | intro
      {modifiers : List Char} {parts : List (List Char)}
      (trimmed : Text.trim body = modifiers ++ (parts.intersperse ['/']).flatten)
      (consistent : ModifierText modifiers)
      (parts_ne_nil : parts ≠ [])
      (names : ∀ part ∈ parts, IsName (Text.trim part)) :
      SlotText body
        { types := parts.map fun part => String.ofList (Text.trim part)
          acceptance := (Modifiers.ofChars modifiers).acceptance
          conditional := (Modifiers.ofChars modifiers).conditional
          nullable := (Modifiers.ofChars modifiers).nullable }

section Names

/-- The space is the only blank character that may stand in a name. -/
theorem isBlank_iff_of_isNameChar
    {c : Char}
    (h : isNameChar c = true) :
    Text.isBlank c = true ↔ c = ' ' := by
  constructor
  · intro hblank
    rw [isNameChar, Text.isAlphanumeric_eq_false_of_isBlank hblank] at h
    by_contra hspace
    have hline : c = '_' := by
      simpa [hspace] using h
    rw [hline] at hblank
    revert hblank
    decide
  · rintro rfl
    decide

theorem not_isBlank_iff_of_isNameChar
    {o : Option Char}
    (h : ∀ c ∈ o, isNameChar c = true) :
    (∀ c ∈ o, Text.isBlank c = false) ↔ o ≠ some ' ' := by
  cases o with
  | none =>
      simp
  | some c =>
      have hc := isBlank_iff_of_isNameChar (h c rfl)
      simp [← hc]

/-- A name is made of name characters, and has no space at either end. -/
theorem isName_iff
    {cs : List Char} :
    IsName cs ↔
      cs ≠ [] ∧ cs.head? ≠ some ' ' ∧ cs.getLast? ≠ some ' ' ∧
        ∀ c ∈ cs, isNameChar c = true := by
  have hends : (∀ c ∈ cs, isNameChar c = true) →
      (Text.Trimmed cs ↔ cs.head? ≠ some ' ' ∧ cs.getLast? ≠ some ' ') := by
    intro h
    exact and_congr
      (not_isBlank_iff_of_isNameChar fun c hc => h c (List.mem_of_mem_head? hc))
      (not_isBlank_iff_of_isNameChar fun c hc => h c (List.mem_of_mem_getLast? hc))
  constructor
  · rintro ⟨hne, htrimmed, hchars⟩
    obtain ⟨hfirst, hlast⟩ := (hends hchars).1 htrimmed
    exact ⟨hne, hfirst, hlast, hchars⟩
  · rintro ⟨hne, hfirst, hlast, hchars⟩
    exact ⟨hne, (hends hchars).2 ⟨hfirst, hlast⟩, hchars⟩

/-- The characters that trimming takes away are blank. -/
theorem mem_trim_or_isBlank
    {c : Char} {cs : List Char}
    (h : c ∈ cs) :
    c ∈ Text.trim cs ∨ Text.isBlank c = true := by
  have hdrop : ∀ {c : Char} {cs : List Char},
      c ∈ cs → c ∈ cs.dropWhile Text.isBlank ∨ Text.isBlank c = true := by
    intro c cs h
    rw [← List.takeWhile_append_dropWhile (p := Text.isBlank) (l := cs),
      List.mem_append] at h
    rcases h with h | h
    · exact Or.inr (List.mem_takeWhile_imp h)
    · exact Or.inl h
  rcases hdrop h with hleft | hblank
  · rcases hdrop (List.mem_reverse.2 hleft) with hright | hblank
    · exact Or.inl (List.mem_reverse.2 hright)
    · exact Or.inr hblank
  · exact Or.inr hblank

/-- The characters around and in a name are blanks and name characters. -/
theorem IsName.blank_or_isNameChar
    {part : List Char} {c : Char}
    (h : IsName (Text.trim part))
    (hc : c ∈ part) :
    Text.isBlank c = true ∨ isNameChar c = true := by
  rcases mem_trim_or_isBlank hc with hname | hblank
  · exact Or.inr (h.nameChars c hname)
  · exact Or.inl hblank

theorem IsModifier.not_isBlank_not_isNameChar
    {c : Char}
    (h : IsModifier c) :
    Text.isBlank c = false ∧ isNameChar c = false := by
  obtain ⟨-, -, hminus, hequals, htilde, hstar⟩ := not_isNameChar
  rcases h with rfl | rfl | rfl | rfl
  · exact ⟨by decide, hminus⟩
  · exact ⟨by decide, hequals⟩
  · exact ⟨by decide, htilde⟩
  · exact ⟨by decide, hstar⟩

theorem IsName.slash_not_mem
    {part : List Char}
    (h : IsName (Text.trim part)) :
    '/' ∉ part := by
  intro hmem
  rcases h.blank_or_isNameChar hmem with hblank | hname
  · revert hblank
    decide
  · rw [not_isNameChar.2.1] at hname
    cases hname

/-- Names with slashes between them do not start with a modifier. -/
theorem not_isModifier_of_head?
    {parts : List (List Char)}
    (hne : parts ≠ [])
    (h : ∀ part ∈ parts, IsName (Text.trim part)) :
    ∀ c ∈ ((parts.intersperse ['/']).flatten).head?, ¬IsModifier c := by
  intro c hc hmodifier
  obtain ⟨part, others, rfl⟩ := List.exists_cons_of_ne_nil hne
  have hname := h part List.mem_cons_self
  have hpart : part ≠ [] := by
    rintro rfl
    exact hname.ne_nil rfl
  obtain ⟨d, ds, rfl⟩ := List.exists_cons_of_ne_nil hpart
  have hd : d = c := by
    cases others with
    | nil =>
        simpa using hc
    | cons other others =>
        simpa using hc
  subst hd
  obtain ⟨hblank, hchar⟩ := hmodifier.not_isBlank_not_isNameChar
  rcases hname.blank_or_isNameChar List.mem_cons_self with hd | hd
  · rw [hblank] at hd
    cases hd
  · rw [hchar] at hd
    cases hd

/-- Blanks around a name do not count. -/
theorem readName_trim
    (cs : List Char) :
    readName (Text.trim cs) = readName cs := by
  unfold readName
  rw [(Text.trimmed_trim cs).trim_eq]

theorem readName_eq_ok_iff
    {cs : List Char} {name : String} :
    readName cs = .ok name ↔
      IsName (Text.trim cs) ∧ name = String.ofList (Text.trim cs) := by
  constructor
  · intro h
    have hname := isName_of_readName h
    unfold readName at h
    dsimp only at h
    split at h
    · cases h
    · split at h
      · cases h
      · cases h
        rw [String.toList_ofList] at hname
        exact ⟨hname, rfl⟩
  · rintro ⟨hname, rfl⟩
    rw [← String.toList_ofList (l := Text.trim cs)] at hname
    have hread := hname.readName_eq
    rwa [String.toList_ofList, readName_trim] at hread

/-- Parts are read as names if each of them is one. -/
theorem readNames_eq_ok_iff
    {parts : List (List Char)} {names : List String} :
    readNames parts = .ok names ↔
      (∀ part ∈ parts, IsName (Text.trim part)) ∧
        names = parts.map fun part => String.ofList (Text.trim part) := by
  induction parts generalizing names with
  | nil =>
      constructor
      · intro h
        cases h
        exact ⟨by simp, rfl⟩
      · rintro ⟨-, rfl⟩
        rfl
  | cons part parts ih =>
      rw [List.forall_mem_cons, List.map_cons]
      constructor
      · intro h
        unfold readNames at h
        split at h
        · cases h
        · rename_i name hname
          split at h
          · cases h
          · rename_i others hothers
            cases h
            obtain ⟨hpart, rfl⟩ := readName_eq_ok_iff.1 hname
            obtain ⟨hparts, rfl⟩ := ih.1 hothers
            exact ⟨⟨hpart, hparts⟩, rfl⟩
      · rintro ⟨⟨hpart, hparts⟩, rfl⟩
        have hname := readName_eq_ok_iff.2 ⟨hpart, rfl⟩
        have hothers := ih.2 ⟨hparts, rfl⟩
        rw [readNames, hname, hothers]

end Names

section Reading

theorem readModifiers_stop
    {cs : List Char}
    (h : ∀ c ∈ cs.head?, ¬IsModifier c)
    (m : Modifiers) :
    readModifiers m cs = .ok (m, cs) := by
  rw [readModifiers]
  all_goals
    rintro tail rfl
    exact h _ rfl (by simp [IsModifier])

/-- One more modifier is read behind others, unless it contradicts one of them. -/
theorem readModifiers_cons
    {seen : List Char} {c : Char}
    (hseen : ModifierText seen)
    (hc : IsModifier c)
    (cs : List Char) :
    readModifiers (Modifiers.ofChars seen) (c :: cs) =
      if '~' ∈ seen ++ [c] ∧ '*' ∈ seen ++ [c] then
        .error .conflictingModifiers
      else
        readModifiers (Modifiers.ofChars (seen ++ [c])) cs := by
  have hconsistent := hseen.consistent
  rcases hc with rfl | rfl | rfl | rfl
  · simp [readModifiers, Modifiers.ofChars, hconsistent]
  · simp [readModifiers, Modifiers.ofChars, hconsistent]
  · by_cases hstar : '*' ∈ seen
    · have htilde : '~' ∉ seen := fun htilde => hconsistent ⟨htilde, hstar⟩
      simp [readModifiers, Modifiers.ofChars, hstar, htilde]
    · by_cases htilde : '~' ∈ seen <;>
        simp [readModifiers, Modifiers.ofChars, hstar, htilde]
  · by_cases htilde : '~' ∈ seen
    · simp [readModifiers, Modifiers.ofChars, htilde]
    · by_cases hstar : '*' ∈ seen <;>
        simp [readModifiers, Modifiers.ofChars, hstar, htilde]

theorem ModifierText.concat
    {seen : List Char} {c : Char}
    (hseen : ModifierText seen)
    (hc : IsModifier c)
    (h : ¬('~' ∈ seen ++ [c] ∧ '*' ∈ seen ++ [c])) :
    ModifierText (seen ++ [c]) := by
  refine ⟨?_, h⟩
  intro d hd
  rcases List.mem_append.1 hd with hd | hd
  · exact hseen.isModifier d hd
  · rw [List.mem_singleton.1 hd]
    exact hc

theorem ModifierText.of_append
    {seen more : List Char}
    (h : ModifierText (seen ++ more)) :
    ModifierText seen := by
  constructor
  · intro c hc
    exact h.isModifier c (List.mem_append_left more hc)
  · rintro ⟨htilde, hstar⟩
    exact h.consistent
      ⟨List.mem_append_left more htilde, List.mem_append_left more hstar⟩

/-- Modifiers are read as far as they go. -/
theorem modifierText_of_readModifiers
    {seen cs rest : List Char} {m : Modifiers}
    (hseen : ModifierText seen)
    (h : readModifiers (Modifiers.ofChars seen) cs = .ok (m, rest)) :
    ∃ modifiers,
      cs = modifiers ++ rest ∧
        ModifierText (seen ++ modifiers) ∧
        m = Modifiers.ofChars (seen ++ modifiers) := by
  induction cs generalizing seen with
  | nil =>
      rw [readModifiers_stop (by simp)] at h
      cases h
      exact ⟨[], rfl, by rwa [List.append_nil], by rw [List.append_nil]⟩
  | cons c cs ih =>
      by_cases hc : IsModifier c
      · rw [readModifiers_cons hseen hc] at h
        split at h
        · cases h
        · rename_i hconsistent
          obtain ⟨modifiers, rfl, hmodifiers, hm⟩ := ih (hseen.concat hc hconsistent) h
          refine ⟨c :: modifiers, rfl, ?_, ?_⟩
          · rwa [List.append_cons]
          · rwa [List.append_cons]
      · rw [readModifiers_stop (by simpa using hc)] at h
        cases h
        exact ⟨[], rfl, by rwa [List.append_nil], by rw [List.append_nil]⟩

/-- Modifiers that go together are read, if none comes behind them. -/
theorem readModifiers_append
    (seen : List Char) {modifiers rest : List Char}
    (h : ModifierText (seen ++ modifiers))
    (hrest : ∀ c ∈ rest.head?, ¬IsModifier c) :
    readModifiers (Modifiers.ofChars seen) (modifiers ++ rest) =
      .ok (Modifiers.ofChars (seen ++ modifiers), rest) := by
  induction modifiers generalizing seen with
  | nil =>
      rw [List.append_nil, List.nil_append, readModifiers_stop hrest]
  | cons c modifiers ih =>
      rw [List.append_cons] at h ⊢
      have hc : IsModifier c := h.isModifier c (by simp)
      rw [List.cons_append, readModifiers_cons h.of_append.of_append hc,
        if_neg h.of_append.consistent, ih _ h]

end Reading

/-- A text is read as a slot exactly when it is the body of that slot. -/
theorem readSlotBody_eq_ok_iff
    {body : List Char} {s : Slot} :
    readSlotBody body = .ok s ↔ SlotText body s := by
  have hnone : ModifierText [] := ⟨by simp, by simp⟩
  constructor
  · intro h
    unfold readSlotBody at h
    split at h
    · cases h
    · rename_i m rest hmodifiers
      split at h
      · cases h
      · rename_i names hnames
        cases h
        obtain ⟨modifiers, hbody, hconsistent, rfl⟩ :=
          modifierText_of_readModifiers hnone hmodifiers
        obtain ⟨hparts, rfl⟩ := readNames_eq_ok_iff.1 hnames
        have hne : Text.splitOn '/' rest ≠ [] := by
          rw [Text.splitOn_eq]
          exact List.splitOn_ne_nil _ _
        refine .intro ?_ hconsistent hne hparts
        rw [hbody, Text.splitOn_eq]
        exact congrArg (modifiers ++ ·) (List.intercalate_splitOn '/').symm
  · rintro ⟨htrimmed, hconsistent, hne, hnames⟩
    have hmodifiers :=
      readModifiers_append [] hconsistent (not_isModifier_of_head? hne hnames)
    have hsplit := Text.splitOn_flatten_intersperse
      (fun part hpart => (hnames part hpart).slash_not_mem) hne
    have hread := readNames_eq_ok_iff.2 ⟨hnames, rfl⟩
    unfold readSlotBody
    rw [htrimmed, show Modifiers.none = Modifiers.ofChars [] from rfl, hmodifiers]
    dsimp only
    rw [hsplit, hread]
    rfl

end Pattern
end TriggerScript
