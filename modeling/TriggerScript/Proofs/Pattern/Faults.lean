import TriggerScript.Proofs.Pattern.Reading

/-!
# Where a pattern is at fault

Which faults a text has, without regard to how it is read: behind pieces that the grammar
derives stands something that it does not derive. Reading a pattern fails with a fault
exactly when the pattern has that fault, so a pattern has at most one.
-/

namespace TriggerScript
namespace Pattern

mutual

/-- A text, at an offset, that is no sequence of
pieces up to the end of the group around it. -/
inductive SequenceFault [Regex.Dialect] :
    Option OpenGroup → Nat → List Char → Fault → Prop
  /-- The group is never closed. -/
  | unclosed
      (g : OpenGroup) (offset : Nat) :
      SequenceFault (some g) offset [] g.unclosed
  | first
      {g : Option OpenGroup} {offset : Nat} {c : Char} {tail : List Char} {f : Fault}
      (goes_on : stops g c = false)
      (first : PieceFault offset c tail f) :
      SequenceFault g offset (c :: tail) f
  | later
      {g : Option OpenGroup} {offset : Nat} {s ss : List Char} {p : Piece} {f : Fault}
      (first : PieceText s p)
      (others : SequenceFault g (offset + Text.byteLength s) ss f) :
      SequenceFault g offset (s ++ ss) f

/-- A text that no piece is in front of, by its first character and the others. -/
inductive PieceFault [Regex.Dialect] :
    Nat → Char → List Char → Fault → Prop
  | unmatched
      {c : Char}
      (closes : c = ']' ∨ c = ')' ∨ c = '|')
      (offset : Nat) (tail : List Char) :
      PieceFault offset c tail (.unmatched c offset)
  | danglingEscape
      (offset : Nat) :
      PieceFault offset '\\' [] (.danglingEscape offset)
  | group
      {offset : Nat} {s : List Char} {f : Fault}
      (k : GroupKind)
      (content : AlternativesFault ⟨k, offset⟩ (offset + 1) s f) :
      PieceFault offset k.opener s f
  | unclosedCapture
      {s : List Char}
      (unclosed : splitCapture? s = none)
      (offset : Nat) :
      PieceFault offset '<' s (.unclosed '<' '>' offset)
  | badCapture
      {body : List Char} {reason : String}
      (closed : body.getLast? ≠ some '\\')
      (rejected : Regex.Dialect.complaint? body = some reason)
      (offset : Nat) (tail : List Char) :
      PieceFault offset '<' (escapeCapture body ++ '>' :: tail)
        (.badCapture (String.ofList body) reason offset
          (offset + 1 + captureLength body + 1))
  | unclosedSlot
      {s : List Char}
      (unclosed : splitAt? '%' s = none)
      (offset : Nat) :
      PieceFault offset '%' s (.unclosed '%' '%' offset)
  | badSlot
      {body : List Char} {fault : SlotFault}
      (closed : '%' ∉ body)
      (rejected : readSlotBody body = .error fault)
      (offset : Nat) (tail : List Char) :
      PieceFault offset '%' (body ++ '%' :: tail)
        (fault.toFault offset (offset + 1 + Text.byteLength body + 1))

/-- A text that no alternatives with the closer of
their group behind them are in front of. -/
inductive AlternativesFault [Regex.Dialect] :
    OpenGroup → Nat → List Char → Fault → Prop
  | unmarked
      {g : OpenGroup} {offset : Nat} {s : List Char} {f : Fault}
      (unmarked : splitMark? s = none)
      (content : SequenceFault (some g) offset s f) :
      AlternativesFault g offset s f
  | marked
      {g : OpenGroup} {offset : Nat} {digits s : List Char} {mark : UInt32} {f : Fault}
      (digits_isDigit : ∀ c ∈ digits, c.isDigit)
      (value : markOf? digits = some mark)
      (content : SequenceFault (some g)
        (offset + Text.byteLength digits + markSeparator.utf8Size) s f) :
      AlternativesFault g offset (digits ++ markSeparator :: s) f
  | later
      {g : OpenGroup} {offset : Nat} {s ss : List Char} {a : Marked Tree} {f : Fault}
      (first : AlternativeText s a)
      (others : AlternativesFault g (offset + Text.byteLength s + 1) ss f) :
      AlternativesFault g offset (s ++ '|' :: ss) f

end

section Reading

/-- Reading pieces fails at the first piece, or at one of the others. -/
theorem readPieces_cons_error
    [Regex.Dialect]
    {g : Option OpenGroup} {offset : Nat} {c : Char} {tail : List Char} {f : Fault}
    (h : readPieces g offset (c :: tail) = .error f) :
    stops g c = false ∧
      (readPiece offset c tail = .error f ∨
        ∃ first, readPiece offset c tail = .ok first ∧
          readPieces g first.offset first.rest = .error f) := by
  unfold readPieces at h
  split at h
  · cases h
  · rename_i hstops
    refine ⟨Bool.not_eq_true _ ▸ hstops, ?_⟩
    split at h
    · rename_i fault hfault
      cases h
      exact .inl hfault
    · rename_i first hfirst
      split at h
      · rename_i fault hothers
        cases h
        exact .inr ⟨first, hfirst, hothers⟩
      · cases h

/-- Reading alternatives fails in the first
alternative, or in the others behind a bar. -/
theorem readAlternatives_error
    [Regex.Dialect]
    {g : OpenGroup} {offset : Nat} {cs : List Char} {f : Fault}
    (h : readAlternatives g offset cs = .error f) :
    readPieces (some g) (readMark offset cs).offset (readMark offset cs).rest =
        .error f ∨
      ∃ pieces rest,
        readPieces (some g) (readMark offset cs).offset (readMark offset cs).rest =
            .ok pieces ∧
          pieces.rest = '|' :: rest ∧
          readAlternatives g (pieces.offset + 1) rest = .error f := by
  unfold readAlternatives at h
  dsimp only at h
  split at h
  · rename_i fault hfault
    cases h
    exact .inl hfault
  · rename_i pieces hpieces
    -- a sequence in a group ends in front of a bar or the closer, so nothing else is
    -- left
    obtain ⟨-, -, -, ⟨c, tail, hrest, hc⟩, -⟩ :=
      readPieces_sound (some g) _ _ pieces hpieces
    split at h
    · rename_i hnil
      cases hnil.symm.trans hrest
    · rename_i d rest hcons
      cases hcons.symm.trans hrest
      split at h
      · rename_i hbar
        split at h
        · rename_i fault hothers
          cases h
          exact .inr ⟨pieces, tail, hpieces, by rw [hrest, hbar], hothers⟩
        · cases h
      · rename_i hbar
        rw [if_pos (hc.resolve_left hbar)] at h
        cases h

theorem readCapture_fault
    [Regex.Dialect]
    {start : Nat} {cs : List Char} {f : Fault}
    (h : readCapture start cs = .error f) :
    PieceFault start '<' cs f := by
  unfold readCapture at h
  split at h
  · rename_i hsplit
    cases h
    exact .unclosedCapture hsplit start
  · rename_i body rest hsplit
    dsimp only at h
    split at h
    · rename_i reason hcomplaint
      cases h
      obtain ⟨rfl, hlast⟩ := eq_append_of_splitCapture? hsplit
      exact .badCapture hlast hcomplaint start rest
    · cases h

theorem readSlot_fault
    [Regex.Dialect]
    {start : Nat} {cs : List Char} {f : Fault}
    (h : readSlot start cs = .error f) :
    PieceFault start '%' cs f := by
  unfold readSlot at h
  split at h
  · rename_i hsplit
    cases h
    exact .unclosedSlot hsplit start
  · rename_i body rest hsplit
    dsimp only at h
    split at h
    · rename_i fault hfault
      cases h
      cases eq_append_of_splitAt? hsplit
      exact .badSlot (not_mem_of_splitAt? hsplit) hfault start rest
    · cases h

/-- Behind a mark or without one, a fault in the
pieces is a fault in the alternatives. -/
theorem alternativesFault_of_readMark
    [Regex.Dialect]
    {g : OpenGroup} {offset : Nat} {cs : List Char} {f : Fault}
    (h : SequenceFault (some g) (readMark offset cs).offset
      (readMark offset cs).rest f) :
    AlternativesFault g offset cs f := by
  rcases readMark_eq offset cs with
    ⟨hnone, -, hrest, hoffset⟩ | ⟨digits, hcs, hdigits, hmark, hoffset⟩
  · rw [hrest, hoffset] at h
    exact .unmarked hnone h
  · rw [hoffset] at h
    rw [hcs]
    exact .marked hdigits hmark h

mutual

/-- A text that cannot be read as pieces has the fault that reading it fails with. -/
theorem readPieces_fault
    [Regex.Dialect]
    (g : Option OpenGroup) (offset : Nat) :
    (cs : List Char) → (f : Fault) → readPieces g offset cs = .error f →
      SequenceFault g offset cs f
  | [], f, h => by
      unfold readPieces at h
      cases g with
      | none =>
          cases h
      | some g =>
          cases h
          exact .unclosed g offset
  | c :: tail, f, h => by
      obtain ⟨hstops, hfirst | ⟨first, hfirst, hothers⟩⟩ := readPieces_cons_error h
      · exact .first hstops (readPiece_fault offset c tail f hfirst)
      · obtain ⟨s, hs, hpiece, hoffset⟩ := readPiece_sound offset c tail first hfirst
        have hfault := readPieces_fault g first.offset first.rest f hothers
        rw [hoffset] at hfault
        rw [hs]
        exact .later hpiece hfault
termination_by cs => (cs.length, 1)
decreasing_by
  · exact Prod.Lex.right _ (by omega)
  · exact Prod.Lex.left _ _ (Nat.lt_succ_of_le first.rest_le)

theorem readPiece_fault
    [Regex.Dialect]
    (offset : Nat) (c : Char) (tail : List Char) (f : Fault)
    (h : readPiece offset c tail = .error f) :
    PieceFault offset c tail f := by
  unfold readPiece at h
  split at h
  · split at h
    · cases h
      exact .danglingEscape offset
    · cases h
  · split at h
    · rename_i fault hfault
      cases h
      exact .group .optional (readAlternatives_fault _ _ tail f hfault)
    · cases h
  · split at h
    · rename_i fault hfault
      cases h
      exact .group .choice (readAlternatives_fault _ _ tail f hfault)
    · cases h
  · cases hr : readCapture offset tail with
    | error fault =>
        rw [hr] at h
        cases h
        exact readCapture_fault hr
    | ok r =>
        rw [hr] at h
        cases h
  · cases hr : readSlot offset tail with
    | error fault =>
        rw [hr] at h
        cases h
        exact readSlot_fault hr
    | ok r =>
        rw [hr] at h
        cases h
  · cases h
    exact .unmatched (.inl rfl) offset tail
  · cases h
    exact .unmatched (.inr (.inl rfl)) offset tail
  · cases h
    exact .unmatched (.inr (.inr rfl)) offset tail
  · cases h
termination_by (tail.length + 1, 0)
decreasing_by
  all_goals exact Prod.Lex.left _ _ (by omega)

theorem readAlternatives_fault
    [Regex.Dialect]
    (g : OpenGroup) (offset : Nat) (cs : List Char) (f : Fault)
    (h : readAlternatives g offset cs = .error f) :
    AlternativesFault g offset cs f := by
  obtain hfault | ⟨pieces, rest, hpieces, hbar, hothers⟩ := readAlternatives_error h
  · exact alternativesFault_of_readMark (readPieces_fault (some g) _ _ f hfault)
  · obtain ⟨s, hs, hsequence, hends, hread⟩ :=
      readPieces_sound (some g) _ _ pieces hpieces
    obtain ⟨a, ha, halternative, hlength⟩ :=
      alternativeText_of_readMark hs hsequence hends
    have hfault := readAlternatives_fault g _ rest f hothers
    rw [hread, hlength] at hfault
    rw [ha, hbar]
    exact .later halternative hfault
termination_by (cs.length, 2)
decreasing_by
  · exact Prod.Lex.right' _ (readMark offset cs).rest_le (by omega)
  · have hle := Nat.le_trans pieces.rest_le (readMark offset cs).rest_le
    rw [hbar] at hle
    exact Prod.Lex.left _ _ hle

end

/-- A piece in front of a text is read up to the
text, and the offset moves by its length. -/
theorem PieceText.readPiece_eq
    [Regex.Dialect]
    {s : List Char} {p : Piece}
    (h : PieceText s p)
    (offset : Nat) (rest : List Char) :
    ∃ c tail, s ++ rest = c :: tail ∧ (∀ g, stops g c = false) ∧
      ∃ r, readPiece offset c tail = .ok r ∧ r.rest = rest ∧
        r.offset = offset + Text.byteLength s := by
  obtain ⟨c, tail, heq, r, hr, -, hrest⟩ := h.reads rest offset
  obtain ⟨t, ht, -, hoffset⟩ := readPiece_sound offset c tail r hr
  have hst : s = t := List.append_cancel_right (heq.trans (hrest ▸ ht))
  obtain ⟨d, ds, rfl, hoptional, hchoice, hbar⟩ := h.exists_cons
  cases heq
  exact ⟨_, _, rfl, stops_eq_false hoptional hchoice hbar, r, hr, hrest, hst ▸ hoffset⟩

/-- An alternative in front of where it may end is read as its
mark and its pieces, and the offset moves by its length. -/
theorem AlternativeText.readPieces_eq
    [Regex.Dialect]
    {s rest : List Char} {a : Marked Tree} {g : OpenGroup}
    (h : AlternativeText s a)
    (hends : Ends (some g) rest)
    (offset : Nat) :
    ∃ pieces,
      readPieces (some g) (readMark offset (s ++ rest)).offset
          (readMark offset (s ++ rest)).rest =
          .ok pieces ∧
        pieces.rest = rest ∧ pieces.offset = offset + Text.byteLength s := by
  obtain ⟨ps, -, hreads⟩ := h.reads hends offset
  obtain ⟨pieces, hpieces, -, hrest⟩ := hreads (readMark offset (s ++ rest)).offset
  obtain ⟨t, ht, hsequence, hends', hread⟩ :=
    readPieces_sound (some g) _ _ pieces hpieces
  obtain ⟨b, hb, -, hlength⟩ := alternativeText_of_readMark ht hsequence hends'
  rw [hrest] at hb
  have hbs : b = s := (List.append_cancel_right hb).symm
  exact ⟨pieces, hpieces, hrest, hread.trans (hlength.trans (by rw [hbs]))⟩

theorem readAlternatives_of_readPieces
    [Regex.Dialect]
    {g : OpenGroup} {offset : Nat} {cs : List Char} {f : Fault}
    (h : readPieces (some g) (readMark offset cs).offset (readMark offset cs).rest =
      .error f) :
    readAlternatives g offset cs = .error f := by
  unfold readAlternatives
  simp only [h]

theorem readAlternatives_of_others
    [Regex.Dialect]
    {g : OpenGroup} {offset : Nat} {cs rest : List Char} {f : Fault}
    {pieces : Read (List Piece) _}
    (hpieces :
      readPieces (some g) (readMark offset cs).offset (readMark offset cs).rest =
        .ok pieces)
    (hbar : pieces.rest = '|' :: rest)
    (hothers : readAlternatives g (pieces.offset + 1) rest = .error f) :
    readAlternatives g offset cs = .error f := by
  unfold readAlternatives
  simp only [hpieces]
  split
  · rename_i hnil
    cases hnil.symm.trans hbar
  · rename_i c tail hcons
    cases hcons.symm.trans hbar
    simp only [if_pos, hothers]

theorem readCapture_of_unclosed
    [Regex.Dialect]
    {cs : List Char}
    (h : splitCapture? cs = none)
    (start : Nat) :
    readCapture start cs = .error (.unclosed '<' '>' start) := by
  unfold readCapture
  split
  · rfl
  · rename_i hsome
    cases hsome.symm.trans h

theorem readCapture_of_rejected
    [Regex.Dialect]
    {cs body rest : List Char} {reason : String}
    (h : splitCapture? cs = some (body, rest))
    (hrejected : Regex.Dialect.complaint? body = some reason)
    (start : Nat) :
    readCapture start cs =
      .error (.badCapture (String.ofList body) reason start
        (start + 1 + captureLength body + 1)) := by
  unfold readCapture
  split
  · rename_i hnone
    cases hnone.symm.trans h
  · rename_i hsome
    cases hsome.symm.trans h
    dsimp only
    split
    · rename_i hcomplaint
      cases hcomplaint.symm.trans hrejected
      rfl
    · rename_i haccepted
      cases haccepted.symm.trans hrejected

theorem readSlot_of_unclosed
    {cs : List Char}
    (h : splitAt? '%' cs = none)
    (start : Nat) :
    readSlot start cs = .error (.unclosed '%' '%' start) := by
  unfold readSlot
  split
  · rfl
  · rename_i hsome
    cases hsome.symm.trans h

theorem readSlot_of_rejected
    {cs body rest : List Char} {fault : SlotFault}
    (h : splitAt? '%' cs = some (body, rest))
    (hrejected : readSlotBody body = .error fault)
    (start : Nat) :
    readSlot start cs =
      .error (fault.toFault start (start + 1 + Text.byteLength body + 1)) := by
  unfold readSlot
  split
  · rename_i hnone
    cases hnone.symm.trans h
  · rename_i hsome
    cases hsome.symm.trans h
    dsimp only
    split
    · rename_i hfault
      cases hfault.symm.trans hrejected
      rfl
    · rename_i haccepted
      cases haccepted.symm.trans hrejected

mutual

/-- Reading a text as pieces fails with the fault that it has. -/
theorem SequenceFault.readPieces_eq [Regex.Dialect] :
    {g : Option OpenGroup} → {offset : Nat} → {s : List Char} → {f : Fault} →
      SequenceFault g offset s f → readPieces g offset s = .error f
  | _, _, _, _, .unclosed g offset => by
      rw [readPieces]
  | _, _, _, _, .first goes_on first => by
      rw [readPieces, if_neg (by simp [goes_on])]
      simp only [first.readPiece_eq]
  | g, offset, _, _, @SequenceFault.later _ _ _ s ss _ _ first others => by
      obtain ⟨c, tail, heq, hstops, r, hr, hrest, hoffset⟩ :=
        first.readPiece_eq offset ss
      have hothers := others.readPieces_eq
      rw [← hoffset, ← hrest] at hothers
      rw [heq, readPieces, if_neg (by simp [hstops])]
      simp only [hr, hothers]

theorem PieceFault.readPiece_eq [Regex.Dialect] :
    {offset : Nat} → {c : Char} → {tail : List Char} → {f : Fault} →
      PieceFault offset c tail f → readPiece offset c tail = .error f
  | _, _, _, _, .unmatched closes offset tail => by
      rcases closes with rfl | rfl | rfl <;> rw [readPiece]
  | _, _, _, _, .danglingEscape offset => by
      rw [readPiece]
  | _, _, _, _, .group .optional content => by
      rw [GroupKind.opener, readPiece, content.readAlternatives_eq]
  | _, _, _, _, .group .choice content => by
      rw [GroupKind.opener, readPiece, content.readAlternatives_eq]
  | _, _, _, _, .unclosedCapture unclosed offset => by
      rw [readPiece, readCapture_of_unclosed unclosed]
      rfl
  | _, _, _, _, .badCapture closed rejected offset tail => by
      rw [readPiece,
        readCapture_of_rejected (splitCapture?_escapeCapture closed tail) rejected]
      rfl
  | _, _, _, _, .unclosedSlot unclosed offset => by
      rw [readPiece, readSlot_of_unclosed unclosed]
      rfl
  | _, _, _, _, .badSlot closed rejected offset tail => by
      rw [readPiece, readSlot_of_rejected (splitAt?_append closed tail) rejected]
      rfl

theorem AlternativesFault.readAlternatives_eq [Regex.Dialect] :
    {g : OpenGroup} → {offset : Nat} → {s : List Char} → {f : Fault} →
      AlternativesFault g offset s f → readAlternatives g offset s = .error f
  | _, offset, _, _, .unmarked unmarked content => by
      refine readAlternatives_of_readPieces ?_
      rw [readMark_of_none unmarked]
      exact content.readPieces_eq
  | _, offset, _, _,
      @AlternativesFault.marked _ _ _ _ s _ _ digits_isDigit value content => by
      refine readAlternatives_of_readPieces ?_
      obtain ⟨-, hrest, hoffset⟩ := readMark_of_some digits_isDigit value offset s
      rw [hrest, hoffset]
      exact content.readPieces_eq
  | _, offset, _, _, @AlternativesFault.later _ g _ _ ss _ _ first others => by
      have hends : Ends (some g) ('|' :: ss) := ⟨_, _, rfl, .inl rfl⟩
      obtain ⟨pieces, hpieces, hbar, hoffset⟩ := first.readPieces_eq hends offset
      refine readAlternatives_of_others hpieces hbar ?_
      rw [hoffset]
      exact others.readAlternatives_eq

end

/-- Reading a pattern fails with a fault exactly when the pattern has the fault. -/
theorem parse_error_iff
    [Regex.Dialect]
    {cs : List Char} {f : Fault} :
    parse cs = .error f ↔ SequenceFault none 0 cs f := by
  constructor
  · intro h
    unfold parse at h
    cases hr : readPieces none 0 cs with
    | error fault =>
        rw [hr] at h
        cases h
        exact readPieces_fault none 0 cs f hr
    | ok r =>
        rw [hr] at h
        cases h
  · intro h
    rw [parse, h.readPieces_eq]
    rfl

end Reading

end Pattern
end TriggerScript
