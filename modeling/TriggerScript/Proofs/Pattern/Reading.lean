import TriggerScript.Proofs.Pattern.Delimiters
import TriggerScript.Proofs.Pattern.Grammar

/-!
# Reading follows the grammar

A pattern is read exactly when the grammar derives it, and what is read is what the
grammar derives: every reading function takes a text of its kind off the front, and takes
it whatever comes behind.
-/

namespace TriggerScript
namespace Pattern

/-- Whether a sequence may end in front of a text: at the end of the pattern outside of
all groups, and in front of a stopping character inside of one. -/
def Ends
    (g : Option OpenGroup) (rest : List Char) : Prop :=
  match g with
  | none => rest = []
  | some g => ∃ c tail, rest = c :: tail ∧ (c = '|' ∨ c = g.kind.closer)

theorem GroupKind.closer_ne_mark
    (k : GroupKind) :
    k.closer.isDigit = false ∧ k.closer ≠ markSeparator := by
  cases k <;> decide

theorem GroupKind.closer_eq_or
    (k : GroupKind) :
    k.closer = ']' ∨ k.closer = ')' := by
  cases k <;> decide

/-- Whether an alternative has a mark does not depend on what comes behind it. -/
theorem splitMark?_append_eq_none_of_ends
    {g : OpenGroup} {rest : List Char}
    (h : Ends (some g) rest)
    (cs : List Char) :
    splitMark? (cs ++ rest) = none ↔ splitMark? cs = none := by
  obtain ⟨c, tail, rfl, rfl | rfl⟩ := h
  · exact splitMark?_append_eq_none_iff (by decide) (by decide) cs tail
  · exact splitMark?_append_eq_none_iff g.kind.closer_ne_mark.1
      g.kind.closer_ne_mark.2 cs tail

/-- A sequence ends in front of nothing at all outside of all
groups, and in front of a stopping character otherwise. -/
theorem ends_of_stops
    {g : Option OpenGroup} {c : Char}
    (h : stops g c = true)
    (tail : List Char) :
    Ends g (c :: tail) := by
  cases g with
  | none =>
      cases h
  | some g =>
      refine ⟨c, tail, rfl, ?_⟩
      simpa [stops] using h

theorem stops_eq_false
    {c : Char}
    (hoptional : c ≠ ']')
    (hchoice : c ≠ ')')
    (hbar : c ≠ '|')
    (g : Option OpenGroup) :
    stops g c = false := by
  cases g with
  | none =>
      rfl
  | some g =>
      rcases g.kind.closer_eq_or with hk | hk <;>
        simp [stops, hk, hoptional, hchoice, hbar]

/-- Delimiters are single bytes. -/
theorem byteLength_delimited
    {opener closer : Char}
    (hopener : opener.utf8Size = 1)
    (hcloser : closer.utf8Size = 1)
    (s t : List Char) :
    Text.byteLength (opener :: (s ++ closer :: t)) =
      Text.byteLength s + 2 + Text.byteLength t := by
  simp only [Text.byteLength_cons, Text.byteLength_append, hopener, hcloser]
  omega

theorem byteLength_bar
    (s t : List Char) :
    Text.byteLength (s ++ '|' :: t) = Text.byteLength s + 1 + Text.byteLength t := by
  have hbar : '|'.utf8Size = 1 := rfl
  rw [Text.byteLength_append, Text.byteLength_cons, hbar, Nat.add_assoc]

theorem readMark_eq
    (offset : Nat) (cs : List Char) :
    (splitMark? cs = none ∧ (readMark offset cs).value = 0 ∧
        (readMark offset cs).rest = cs ∧
        (readMark offset cs).offset = offset) ∨
      ∃ digits, cs = digits ++ markSeparator :: (readMark offset cs).rest ∧
        (∀ c ∈ digits, c.isDigit) ∧ markOf? digits = some (readMark offset cs).value ∧
        (readMark offset cs).offset =
          offset + Text.byteLength digits + markSeparator.utf8Size := by
  unfold readMark
  split
  · rename_i h
    obtain ⟨hcs, hdigits, hmark⟩ := eq_append_of_splitMark? h
    exact .inr ⟨_, hcs, hdigits, hmark, rfl⟩
  · rename_i h
    exact .inl ⟨h, rfl, rfl, rfl⟩

theorem readCapture_sound
    [Regex.Dialect]
    {start : Nat} {cs : List Char} {r : Read Tree cs}
    (h : readCapture start cs = .ok r) :
    ∃ s, '<' :: cs = s ++ r.rest ∧ PieceText s (.node r.value) ∧
      r.offset = start + Text.byteLength s := by
  unfold readCapture at h
  split at h
  · cases h
  · rename_i body rest hsplit
    dsimp only at h
    split at h
    · cases h
    · rename_i haccepted
      cases h
      obtain ⟨hcs, hlast⟩ := eq_append_of_splitCapture? hsplit
      refine ⟨_, by simp [hcs], .capture hlast haccepted, ?_⟩
      rw [byteLength_delimited rfl rfl, Text.byteLength_nil, captureLength]
      dsimp only
      omega

theorem readSlot_sound
    [Regex.Dialect]
    {start : Nat} {cs : List Char} {r : Read Tree cs}
    (h : readSlot start cs = .ok r) :
    ∃ s, '%' :: cs = s ++ r.rest ∧ PieceText s (.node r.value) ∧
      r.offset = start + Text.byteLength s := by
  unfold readSlot at h
  split at h
  · cases h
  · rename_i body rest hsplit
    dsimp only at h
    split at h
    · cases h
    · rename_i slot haccepted
      cases h
      have hcs := eq_append_of_splitAt? hsplit
      refine ⟨_, by simp [hcs], .slot (not_mem_of_splitAt? hsplit) haccepted, ?_⟩
      rw [byteLength_delimited rfl rfl, Text.byteLength_nil]
      dsimp only
      omega

/-- Reading pieces either stops in front of a
character, or reads a piece and then the others. -/
theorem readPieces_cons_ok
    [Regex.Dialect]
    {g : Option OpenGroup} {offset : Nat} {c : Char} {tail : List Char}
    {r : Read (List Piece) (c :: tail)}
    (h : readPieces g offset (c :: tail) = .ok r) :
    (stops g c = true ∧ r.value = [] ∧ r.rest = c :: tail ∧ r.offset = offset) ∨
      ∃ first others,
        readPiece offset c tail = .ok first ∧
          readPieces g first.offset first.rest = .ok others ∧
          r.value = first.value :: others.value ∧ r.rest = others.rest ∧
          r.offset = others.offset := by
  unfold readPieces at h
  split at h
  · rename_i hstops
    cases h
    exact .inl ⟨hstops, rfl, rfl, rfl⟩
  · split at h
    · cases h
    · rename_i first hfirst
      split at h
      · cases h
      · rename_i others hothers
        cases h
        exact .inr ⟨first, others, hfirst, hothers, rfl, rfl, rfl⟩

/-- Reading alternatives reads a mark and pieces, and then either a bar and the other
alternatives, or the closing character. -/
theorem readAlternatives_ok
    [Regex.Dialect]
    {g : OpenGroup} {offset : Nat} {cs : List Char} {r : Read (List (Marked Tree)) cs}
    (h : readAlternatives g offset cs = .ok r) :
    ∃ pieces,
      readPieces (some g) (readMark offset cs).offset (readMark offset cs).rest =
          .ok pieces ∧
        ((∃ rest others,
            pieces.rest = '|' :: rest ∧
              readAlternatives g (pieces.offset + 1) rest = .ok others ∧
              r.value = ⟨(readMark offset cs).value, Tree.ofPieces pieces.value⟩ ::
                  others.value ∧
              r.rest = others.rest ∧ r.offset = others.offset) ∨
          (pieces.rest = g.kind.closer :: r.rest ∧
            r.value = [⟨(readMark offset cs).value, Tree.ofPieces pieces.value⟩] ∧
            r.offset = pieces.offset + 1)) := by
  unfold readAlternatives at h
  dsimp only at h
  split at h
  · cases h
  · rename_i pieces hpieces
    refine ⟨pieces, hpieces, ?_⟩
    split at h
    · cases h
    · rename_i c rest hrest
      split at h
      · rename_i hbar
        split at h
        · cases h
        · rename_i others hothers
          cases h
          exact .inl ⟨rest, others, by rw [hrest, hbar], hothers, rfl, rfl, rfl⟩
      · split at h
        · rename_i hcloser
          cases h
          exact .inr ⟨hrest.trans (congrArg (· :: rest) hcloser), rfl, rfl⟩
        · cases h

theorem alternativeText_of_readMark
    [Regex.Dialect]
    {g : OpenGroup} {offset : Nat} {cs s rest : List Char} {ps : List Piece}
    (hs : (readMark offset cs).rest = s ++ rest)
    (hsequence : SequenceText s ps)
    (hends : Ends (some g) rest) :
    ∃ a, cs = a ++ rest ∧
      AlternativeText a ⟨(readMark offset cs).value, Tree.ofPieces ps⟩ ∧
      (readMark offset cs).offset + Text.byteLength s = offset + Text.byteLength a := by
  rcases readMark_eq offset cs with
    ⟨hnone, hvalue, hrest, hoffset⟩ | ⟨digits, hcs, hdigits, hmark, hoffset⟩
  · rw [hrest] at hs
    subst hs
    rw [splitMark?_append_eq_none_of_ends hends] at hnone
    rw [hvalue, hoffset]
    exact ⟨s, rfl, .unmarked hnone hsequence, rfl⟩
  · refine ⟨digits ++ markSeparator :: s, ?_, .marked hdigits hmark hsequence, ?_⟩
    · rw [List.append_assoc, List.cons_append, ← hs]
      exact hcs
    · rw [hoffset, Text.byteLength_append, Text.byteLength_cons]
      omega

mutual

/-- What is read as pieces is a sequence, up to where
one may end, and the offset moves by its length. -/
theorem readPieces_sound
    [Regex.Dialect]
    (g : Option OpenGroup) (offset : Nat) :
    (cs : List Char) → (r : Read (List Piece) cs) → readPieces g offset cs = .ok r →
      ∃ s, cs = s ++ r.rest ∧ SequenceText s r.value ∧ Ends g r.rest ∧
        r.offset = offset + Text.byteLength s
  | [], r, h => by
      cases g with
      | none =>
          unfold readPieces at h
          cases h
          exact ⟨[], rfl, .nil, rfl, rfl⟩
      | some g =>
          unfold readPieces at h
          cases h
  | c :: tail, r, h => by
      obtain ⟨hstops, hvalue, hrest, hoffset⟩ |
        ⟨first, others, hfirst, hothers, hvalue, hrest, hoffset⟩ := readPieces_cons_ok h
      · rw [hvalue, hrest, hoffset]
        exact ⟨[], rfl, .nil, ends_of_stops hstops tail, rfl⟩
      · obtain ⟨s, hs, hpiece, hfirst⟩ := readPiece_sound offset c tail first hfirst
        obtain ⟨ss, hss, hsequence, hends, hothers⟩ :=
          readPieces_sound g first.offset first.rest others hothers
        rw [hvalue, hrest]
        refine ⟨s ++ ss, ?_, .cons hpiece hsequence, hends, ?_⟩
        · calc
            c :: tail = s ++ first.rest := hs
            _ = s ++ (ss ++ others.rest) := congrArg (s ++ ·) hss
            _ = s ++ ss ++ others.rest := (List.append_assoc s ss others.rest).symm
        · rw [hoffset, hothers, hfirst, Text.byteLength_append, Nat.add_assoc]
termination_by cs => (cs.length, 1)
decreasing_by
  · exact Prod.Lex.right _ (by omega)
  · exact Prod.Lex.left _ _ (Nat.lt_succ_of_le first.rest_le)

theorem readPiece_sound
    [Regex.Dialect]
    (offset : Nat) (c : Char) (tail : List Char) (r : Read Piece tail)
    (h : readPiece offset c tail = .ok r) :
    ∃ s, c :: tail = s ++ r.rest ∧ PieceText s r.value ∧
      r.offset = offset + Text.byteLength s := by
  unfold readPiece at h
  split at h
  · split at h
    · cases h
    · cases h
      exact ⟨_, rfl, .escaped _, Nat.add_assoc _ _ _⟩
  · split at h
    · cases h
    · rename_i alternatives halternatives
      cases h
      obtain ⟨s, hs, hcontent, hoffset⟩ :=
        readAlternatives_sound _ _ tail alternatives halternatives
      refine ⟨_, by simp [hs, Read.map, GroupKind.closer], .optional hcontent, ?_⟩
      rw [byteLength_delimited rfl rfl, Text.byteLength_nil]
      simp only [Read.map, hoffset]
      omega
  · split at h
    · cases h
    · rename_i alternatives halternatives
      cases h
      obtain ⟨s, hs, hcontent, hoffset⟩ :=
        readAlternatives_sound _ _ tail alternatives halternatives
      refine ⟨_, by simp [hs, Read.map, GroupKind.closer], .choice hcontent, ?_⟩
      rw [byteLength_delimited rfl rfl, Text.byteLength_nil]
      simp only [Read.map, hoffset]
      omega
  · cases hr : readCapture offset tail with
    | error fault =>
        rw [hr] at h
        cases h
    | ok r =>
        rw [hr] at h
        cases h
        exact readCapture_sound hr
  · cases hr : readSlot offset tail with
    | error fault =>
        rw [hr] at h
        cases h
    | ok r =>
        rw [hr] at h
        cases h
        exact readSlot_sound hr
  · cases h
  · cases h
  · cases h
  · cases h
    refine ⟨[c], rfl, .plain ?_, rfl⟩
    simp_all [isSpecial]
termination_by (tail.length + 1, 0)
decreasing_by
  all_goals exact Prod.Lex.left _ _ (by omega)

/-- What is read as alternatives is alternatives
with the closing character behind them. -/
theorem readAlternatives_sound
    [Regex.Dialect]
    (g : OpenGroup) (offset : Nat) (cs : List Char) (r : Read (List (Marked Tree)) cs)
    (h : readAlternatives g offset cs = .ok r) :
    ∃ s, cs = s ++ g.kind.closer :: r.rest ∧ AlternativesText s r.value ∧
      r.offset = offset + Text.byteLength s + 1 := by
  obtain ⟨pieces, hpieces, hthen⟩ := readAlternatives_ok h
  obtain ⟨s, hs, hsequence, hends, hread⟩ := readPieces_sound (some g) _ _ pieces hpieces
  obtain ⟨a, ha, halternative, hlength⟩ := alternativeText_of_readMark hs hsequence hends
  obtain ⟨rest, others, hbar, hothers, hvalue, hrest,
    hoffset⟩ | ⟨hcloser, hvalue, hoffset⟩ := hthen
  · obtain ⟨ss, hss, halternatives, hread'⟩ :=
      readAlternatives_sound g _ rest others hothers
    rw [hvalue, hrest]
    refine ⟨a ++ '|' :: ss, ?_, .cons halternative halternatives, ?_⟩
    · calc
        cs = a ++ '|' :: rest := hbar ▸ ha
        _ = a ++ '|' :: (ss ++ g.kind.closer :: others.rest) := by rw [← hss]
        _ = a ++ '|' :: ss ++ g.kind.closer :: others.rest := by simp
    · rw [hoffset, hread', hread, hlength, byteLength_bar]
      omega
  · rw [hvalue]
    exact ⟨a, hcloser ▸ ha, .single halternative, by rw [hoffset, hread, hlength]⟩
termination_by (cs.length, 2)
decreasing_by
  · exact Prod.Lex.right' _ (readMark offset cs).rest_le (by omega)
  · have hle := Nat.le_trans pieces.rest_le (readMark offset cs).rest_le
    rw [hbar] at hle
    exact Prod.Lex.left _ _ hle

end

/-- A text is read as pieces up to a rest. -/
def ReadsPieces
    [Regex.Dialect]
    (g : Option OpenGroup) (offset : Nat) (cs : List Char) (ps : List Piece)
    (rest : List Char) :
    Prop :=
  ∃ r, readPieces g offset cs = .ok r ∧ r.value = ps ∧ r.rest = rest

def ReadsPiece
    [Regex.Dialect]
    (offset : Nat) (cs : List Char) (p : Piece) (rest : List Char) : Prop :=
  ∃ c tail, cs = c :: tail ∧ ∃ r, readPiece offset c tail = .ok r ∧
    r.value = p ∧ r.rest = rest

def ReadsAlternatives
    [Regex.Dialect]
    (g : OpenGroup) (offset : Nat) (cs : List Char) (as : List (Marked Tree))
    (rest : List Char) :
    Prop :=
  ∃ r, readAlternatives g offset cs = .ok r ∧ r.value = as ∧ r.rest = rest

/-- No piece is read where a sequence may end. -/
theorem readsPieces_nil
    [Regex.Dialect]
    {g : Option OpenGroup} {rest : List Char}
    (h : Ends g rest)
    (offset : Nat) :
    ReadsPieces g offset rest [] rest := by
  cases g with
  | none =>
      subst h
      exact ⟨_, by rw [readPieces], rfl, rfl⟩
  | some g =>
      obtain ⟨c, tail, rfl, hc⟩ := h
      have hstops : stops (some g) c = true := by
        simpa [stops] using hc
      exact ⟨_, by rw [readPieces, if_pos hstops], rfl, rfl⟩

/-- A piece that no sequence ends in front of is read before the others. -/
theorem readsPieces_cons
    [Regex.Dialect]
    {g : Option OpenGroup} {offset : Nat} {c : Char}
    {cs rest last : List Char} {p : Piece}
    {ps : List Piece}
    (hstops : stops g c = false)
    (hfirst : ReadsPiece offset (c :: cs) p rest)
    (hothers : ∀ next, ReadsPieces g next rest ps last) :
    ReadsPieces g offset (c :: cs) (p :: ps) last := by
  obtain ⟨_, _, heq, first, hfirst, rfl, rfl⟩ := hfirst
  cases heq
  obtain ⟨others, hrest, rfl, rfl⟩ := hothers first.offset
  refine ⟨(others.map (first.value :: ·)).within (c :: cs)
    (Nat.le_succ_of_le first.rest_le),
    ?_, rfl, rfl⟩
  rw [readPieces, if_neg (by simp [hstops])]
  simp only [hfirst, hrest]

theorem readsAlternatives_cons
    [Regex.Dialect]
    {g : OpenGroup} {offset : Nat} {cs rest last : List Char} {ps : List Piece}
    {as : List (Marked Tree)}
    (hpieces : ReadsPieces (some g) (readMark offset cs).offset
      (readMark offset cs).rest ps ('|' :: rest))
    (hothers : ∀ next, ReadsAlternatives g next rest as last) :
    ReadsAlternatives g offset cs
      (⟨(readMark offset cs).value, Tree.ofPieces ps⟩ :: as) last := by
  obtain ⟨pieces, hpieces, rfl, hbar⟩ := hpieces
  obtain ⟨others, hrest, rfl, rfl⟩ := hothers (pieces.offset + 1)
  have hlt : rest.length ≤ cs.length := by
    have hle := Nat.le_trans pieces.rest_le (readMark offset cs).rest_le
    rw [hbar] at hle
    exact Nat.le_of_lt hle
  refine ⟨(others.map
    (⟨(readMark offset cs).value, Tree.ofPieces pieces.value⟩ :: ·)).within cs
    hlt, ?_, rfl, rfl⟩
  rw [readAlternatives]
  simp only [hpieces]
  split
  · rename_i hnil
    rw [hnil] at hbar
    cases hbar
  · rename_i c tail hcons
    have heq := hcons.symm.trans hbar
    cases heq
    simp [hrest]

theorem readsAlternatives_single
    [Regex.Dialect]
    {g : OpenGroup} {offset : Nat} {cs rest : List Char} {ps : List Piece}
    (hpieces : ReadsPieces (some g) (readMark offset cs).offset
      (readMark offset cs).rest ps (g.kind.closer :: rest)) :
    ReadsAlternatives g offset cs
      [⟨(readMark offset cs).value, Tree.ofPieces ps⟩] rest := by
  obtain ⟨pieces, hpieces, rfl, hcloser⟩ := hpieces
  have hbar : g.kind.closer ≠ '|' := by
    cases g.kind <;> decide
  have hlt : rest.length ≤ cs.length := by
    have hle := Nat.le_trans pieces.rest_le (readMark offset cs).rest_le
    rw [hcloser] at hle
    exact Nat.le_of_lt hle
  refine ⟨⟨[⟨(readMark offset cs).value, Tree.ofPieces pieces.value⟩],
    pieces.offset + 1, rest, hlt⟩, ?_, rfl, rfl⟩
  rw [readAlternatives]
  simp only [hpieces]
  split
  · rename_i hnil
    rw [hnil] at hcloser
    cases hcloser
  · rename_i c tail hcons
    have heq := hcons.symm.trans hcloser
    cases heq
    rw [if_neg hbar, if_pos rfl]

theorem readMark_of_none
    {cs : List Char}
    (h : splitMark? cs = none)
    (offset : Nat) :
    readMark offset cs = ⟨0, offset, cs, Nat.le_refl _⟩ := by
  unfold readMark
  split
  · rename_i hsome
    rw [hsome] at h
    cases h
  · rfl

theorem readMark_of_some
    {digits : List Char} {mark : UInt32}
    (hdigits : ∀ c ∈ digits, c.isDigit)
    (hmark : markOf? digits = some mark)
    (offset : Nat) (s : List Char) :
    (readMark offset (digits ++ markSeparator :: s)).value = mark ∧
      (readMark offset (digits ++ markSeparator :: s)).rest = s ∧
      (readMark offset (digits ++ markSeparator :: s)).offset =
        offset + Text.byteLength digits + markSeparator.utf8Size := by
  have hsplit := splitMark?_digits hdigits hmark s
  unfold readMark
  split
  · rename_i hsome
    cases hsome.symm.trans hsplit
    exact ⟨rfl, rfl, rfl⟩
  · rename_i hnone
    cases hnone.symm.trans hsplit

theorem readsPiece_plain
    [Regex.Dialect]
    {c : Char}
    (h : isSpecial c = false)
    (rest : List Char) (offset : Nat) :
    ReadsPiece offset ([c] ++ rest) (.char c) rest := by
  refine ⟨c, rest, rfl,
    ⟨.char c, offset + c.utf8Size, rest, Nat.le_refl _⟩, ?_, rfl, rfl⟩
  unfold readPiece
  split
  case h_9 => rfl
  all_goals cases h

theorem readsPiece_optional
    [Regex.Dialect]
    {s rest : List Char} {offset : Nat} {as : List (Marked Tree)}
    (h : ReadsAlternatives ⟨.optional, offset⟩ (offset + 1) (s ++ ']' :: rest) as rest) :
    ReadsPiece offset ('[' :: (s ++ [']']) ++ rest)
      (.node (.optional (optionalContent as))) rest := by
  obtain ⟨r, hr, rfl, hrest⟩ := h
  rw [List.cons_append, List.append_assoc]
  refine ⟨_, _, rfl,
    r.map fun as => .node (.optional (optionalContent as)), ?_, rfl, hrest⟩
  unfold readPiece
  simp only [List.singleton_append, hr]

theorem readsPiece_choice
    [Regex.Dialect]
    {s rest : List Char} {offset : Nat} {as : List (Marked Tree)}
    (h : ReadsAlternatives ⟨.choice, offset⟩ (offset + 1) (s ++ ')' :: rest) as rest) :
    ReadsPiece offset ('(' :: (s ++ [')']) ++ rest) (.node (.choice as)) rest := by
  obtain ⟨r, hr, rfl, hrest⟩ := h
  rw [List.cons_append, List.append_assoc]
  refine ⟨_, _, rfl, r.map fun as => .node (.choice as), ?_, rfl, hrest⟩
  unfold readPiece
  simp only [List.singleton_append, hr]

theorem readsPiece_capture
    [Regex.Dialect]
    {body : List Char}
    (hlast : body.getLast? ≠ some '\\')
    (haccepted : Regex.Dialect.complaint? body = none)
    (rest : List Char) (offset : Nat) :
    ReadsPiece offset ('<' :: (escapeCapture body ++ ['>']) ++ rest)
      (.node (.capture (String.ofList body))) rest := by
  have hsplit := splitCapture?_escapeCapture hlast rest
  rw [List.cons_append, List.append_assoc, List.singleton_append]
  have hread : ∃ r, readCapture offset (escapeCapture body ++ '>' :: rest) = .ok r ∧
      r.value = .capture (String.ofList body) ∧ r.rest = rest := by
    unfold readCapture
    split
    · rename_i hnone
      cases hnone.symm.trans hsplit
    · rename_i hsome
      cases hsome.symm.trans hsplit
      dsimp only
      split
      · rename_i hcomplaint
        cases hcomplaint.symm.trans haccepted
      · exact ⟨_, rfl, rfl, rfl⟩
  obtain ⟨r, hr, hvalue, hrest⟩ := hread
  refine ⟨_, _, rfl, r.map .node, ?_, congrArg Piece.node hvalue, hrest⟩
  unfold readPiece
  simp only [hr]
  rfl

theorem readsPiece_slot
    [Regex.Dialect]
    {body : List Char} {slot : Slot}
    (hclosed : '%' ∉ body)
    (haccepted : readSlotBody body = .ok slot)
    (rest : List Char) (offset : Nat) :
    ReadsPiece offset ('%' :: (body ++ ['%']) ++ rest) (.node (.slot slot)) rest := by
  have hsplit := splitAt?_append hclosed rest
  rw [List.cons_append, List.append_assoc, List.singleton_append]
  have hread : ∃ r, readSlot offset (body ++ '%' :: rest) = .ok r ∧
      r.value = .slot slot ∧ r.rest = rest := by
    unfold readSlot
    split
    · rename_i hnone
      cases hnone.symm.trans hsplit
    · rename_i hsome
      cases hsome.symm.trans hsplit
      dsimp only
      split
      · rename_i hfault
        cases hfault.symm.trans haccepted
      · rename_i hslot
        cases hslot.symm.trans haccepted
        exact ⟨_, rfl, rfl, rfl⟩
  obtain ⟨r, hr, hvalue, hrest⟩ := hread
  refine ⟨_, _, rfl, r.map .node, ?_, congrArg Piece.node hvalue, hrest⟩
  unfold readPiece
  simp only [hr]
  rfl

mutual

theorem SequenceText.reads [Regex.Dialect] :
    {s : List Char} → {ps : List Piece} → SequenceText s ps →
      ∀ {g : Option OpenGroup} {rest : List Char}, Ends g rest →
        ∀ offset, ReadsPieces g offset (s ++ rest) ps rest
  | _, _, .nil, _, _, hends, offset =>
      readsPieces_nil hends offset
  | _, _, .cons first others, g, rest, hends, offset => by
      have hpiece := fun behind => first.reads behind offset
      obtain ⟨c, cs, rfl, hoptional, hchoice, hbar⟩ := first.exists_cons
      rw [List.append_assoc]
      exact readsPieces_cons (stops_eq_false hoptional hchoice hbar g) (hpiece _)
        (others.reads hends)

theorem PieceText.reads [Regex.Dialect] :
    {s : List Char} → {p : Piece} → PieceText s p →
      ∀ (rest : List Char) (offset : Nat), ReadsPiece offset (s ++ rest) p rest
  | _, _, .plain plain, rest, offset =>
      readsPiece_plain plain rest offset
  | _, _, .escaped c, rest, offset =>
      ⟨_, _, rfl, _, by unfold readPiece; rfl, rfl, rfl⟩
  | _, _, .optional content, rest, offset =>
      readsPiece_optional (content.reads ⟨.optional, offset⟩ (offset + 1) rest)
  | _, _, .choice content, rest, offset =>
      readsPiece_choice (content.reads ⟨.choice, offset⟩ (offset + 1) rest)
  | _, _, .capture closed accepted, rest, offset =>
      readsPiece_capture closed accepted rest offset
  | _, _, .slot closed accepted, rest, offset =>
      readsPiece_slot closed accepted rest offset

theorem AlternativeText.reads [Regex.Dialect] :
    {s : List Char} → {a : Marked Tree} → AlternativeText s a →
      ∀ {g : OpenGroup} {rest : List Char}, Ends (some g) rest →
        ∀ offset, ∃ ps,
          a = ⟨(readMark offset (s ++ rest)).value, Tree.ofPieces ps⟩ ∧
            ∀ next, ReadsPieces (some g) next (readMark offset (s ++ rest)).rest ps rest
  | _, _, .unmarked unmarked content, _, _, hends, offset => by
      have hnone := (splitMark?_append_eq_none_of_ends hends _).2 unmarked
      rw [readMark_of_none hnone]
      exact ⟨_, rfl, content.reads hends⟩
  | _, _, .marked digits_isDigit value content, _, rest, hends, offset => by
      rw [List.append_assoc, List.cons_append]
      obtain ⟨hvalue, hrest, -⟩ :=
        readMark_of_some digits_isDigit value offset (_ ++ rest)
      rw [hvalue, hrest]
      exact ⟨_, rfl, content.reads hends⟩

theorem AlternativesText.reads [Regex.Dialect] :
    {s : List Char} → {as : List (Marked Tree)} → AlternativesText s as →
      ∀ (g : OpenGroup) (offset : Nat) (rest : List Char),
        ReadsAlternatives g offset (s ++ g.kind.closer :: rest) as rest
  | _, _, .single only, g, offset, rest => by
      have hends : Ends (some g) (g.kind.closer :: rest) := ⟨_, _, rfl, .inr rfl⟩
      obtain ⟨ps, rfl, hpieces⟩ := only.reads hends offset
      exact readsAlternatives_single (hpieces _)
  | _, _, @AlternativesText.cons _ _ ss _ _ first others, g, offset, rest => by
      have hends : Ends (some g) ('|' :: (ss ++ g.kind.closer :: rest)) :=
        ⟨_, _, rfl, .inl rfl⟩
      rw [List.append_assoc, List.cons_append]
      obtain ⟨ps, rfl, hpieces⟩ := first.reads hends offset
      exact readsAlternatives_cons (hpieces _) fun next => others.reads g next rest

end

/-- A pattern is read as a tree exactly when the
grammar derives pieces that make up the tree. -/
theorem parse_ok_iff
    [Regex.Dialect]
    {cs : List Char} {t : Tree} :
    parse cs = .ok t ↔ ∃ ps, SequenceText cs ps ∧ t = Tree.ofPieces ps := by
  constructor
  · intro h
    unfold parse at h
    cases hr : readPieces none 0 cs with
    | error fault =>
        rw [hr] at h
        cases h
    | ok r =>
        rw [hr] at h
        cases h
        obtain ⟨s, hs, hsequence, hends, -⟩ := readPieces_sound none 0 cs r hr
        rw [show r.rest = [] from hends, List.append_nil] at hs
        exact ⟨r.value, hs ▸ hsequence, rfl⟩
  · rintro ⟨ps, hsequence, rfl⟩
    have hreads := hsequence.reads (g := none) rfl 0
    rw [List.append_nil] at hreads
    obtain ⟨r, hr, rfl, -⟩ := hreads
    rw [parse, hr]
    rfl

end Pattern
end TriggerScript
