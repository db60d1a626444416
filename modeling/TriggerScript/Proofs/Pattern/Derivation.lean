import TriggerScript.Proofs.Pattern.SlotText
import TriggerScript.Proofs.Pattern.Writing

/-!
# Derivations of patterns

The grammar of patterns as it can be told to a user: every rule says what a text of some
form looks like and which tree it stands for, and no rule mentions how a text is read. A
pattern is read as a tree exactly when the grammar derives the tree from its text.
-/

namespace TriggerScript
namespace Pattern
namespace Derivation

/-- A text that stands for characters: each of them as
it is, unless it is special, or after a backslash. -/
inductive Literal :
    List Char → List Char → Prop
  | nil :
      Literal [] []
  | plain
      {c : Char} {s cs : List Char}
      (plain : c ∉ ['\\', '[', ']', '(', ')', '<', '%', '|'])
      (others : Literal s cs) :
      Literal (c :: s) (c :: cs)
  | escaped
      {s cs : List Char}
      (c : Char)
      (others : Literal s cs) :
      Literal ('\\' :: c :: s) (c :: cs)

/-- Digits that stand for a mark. -/
structure IsMark
    (digits : List Char) (mark : UInt32) : Prop where
  ne_nil : digits ≠ []
  isDigit : ∀ c ∈ digits, c.isDigit
  value : Nat.ofDigitChars 10 digits 0 = mark.toNat

/-- Whether each closing delimiter in the text of
a capture comes right behind a backslash. -/
def Guarded
    (s : List Char) : Prop :=
  ∀ before after, s = before ++ '>' :: after → before.getLast? = some '\\'

/-- The text of a capture without the backslashes in front of closing delimiters. -/
def unescapeCapture : List Char → List Char
  | [] => []
  | '\\' :: '>' :: s => '>' :: unescapeCapture s
  | c :: s => c :: unescapeCapture s

mutual

/-- A text that is a sequence: its only part, or several that make up a compound. -/
inductive Sequence [Regex.Dialect] :
    List Char → Tree → Prop
  | empty :
      Sequence [] (.text "")
  | single
      {s : List Char} {t : Tree}
      (only : Parts s [t]) :
      Sequence s t
  | several
      {s : List Char} {t u : Tree} {ts : List Tree}
      (parts : Parts s (t :: u :: ts)) :
      Sequence s (.compound (t :: u :: ts))

/-- A text that is several parts in a row. Characters
that stand next to each other are one text. -/
inductive Parts [Regex.Dialect] :
    List Char → List Tree → Prop
  | nil :
      Parts [] []
  | text
      {s cs ss : List Char} {ts : List Tree}
      (literal : Literal s cs)
      (ne_nil : cs ≠ [])
      (others : Parts ss ts)
      (longest : ∀ t ∈ ts.head?, t.isText = false) :
      Parts (s ++ ss) (.text (String.ofList cs) :: ts)
  | node
      {s ss : List Char} {t : Tree} {ts : List Tree}
      (first : Node s t)
      (others : Parts ss ts) :
      Parts (s ++ ss) (t :: ts)

/-- A text that is a group, a capture or a slot. -/
inductive Node [Regex.Dialect] :
    List Char → Tree → Prop
  /-- An optional part with one alternative that is not marked. -/
  | optional
      {s : List Char} {t : Tree}
      (content : Alternatives s [⟨0, t⟩]) :
      Node ('[' :: (s ++ [']'])) (.optional t)
  /-- An optional choice. -/
  | optionalChoice
      {s : List Char} {as : List (Marked Tree)}
      (content : Alternatives s as)
      (ne_single : ∀ t, as ≠ [⟨0, t⟩]) :
      Node ('[' :: (s ++ [']'])) (.optional (.choice as))
  | choice
      {s : List Char} {as : List (Marked Tree)}
      (content : Alternatives s as) :
      Node ('(' :: (s ++ [')'])) (.choice as)
  /-- A capture ends in front of the first closing
  delimiter without a backslash in front. -/
  | capture
      {s : List Char}
      (guarded : Guarded s)
      (closed : s.getLast? ≠ some '\\')
      (accepted : Regex.Dialect.complaint? (unescapeCapture s) = none) :
      Node ('<' :: (s ++ ['>'])) (.capture (String.ofList (unescapeCapture s)))
  | slot
      {s : List Char} {slot : Slot}
      (closed : '%' ∉ s)
      (body : SlotText s slot) :
      Node ('%' :: (s ++ ['%'])) (.slot slot)

/-- A text that is one alternative. What can be its mark is its mark. -/
inductive Alternative [Regex.Dialect] :
    List Char → Marked Tree → Prop
  | unmarked
      {s : List Char} {t : Tree}
      (unmarked : ∀ digits mark rest, IsMark digits mark →
        s ≠ digits ++ markSeparator :: rest)
      (content : Sequence s t) :
      Alternative s ⟨0, t⟩
  | marked
      {digits s : List Char} {mark : UInt32} {t : Tree}
      (isMark : IsMark digits mark)
      (content : Sequence s t) :
      Alternative (digits ++ markSeparator :: s) ⟨mark, t⟩

/-- A text that is several alternatives with bars between them. -/
inductive Alternatives [Regex.Dialect] :
    List Char → List (Marked Tree) → Prop
  | single
      {s : List Char} {a : Marked Tree}
      (only : Alternative s a) :
      Alternatives s [a]
  | cons
      {s ss : List Char} {a : Marked Tree} {as : List (Marked Tree)}
      (first : Alternative s a)
      (others : Alternatives ss as) :
      Alternatives (s ++ '|' :: ss) (a :: as)

end

section Characters

theorem isSpecial_eq_false_iff
    {c : Char} :
    isSpecial c = false ↔ c ∉ ['\\', '[', ']', '(', ')', '<', '%', '|'] := by
  simp only [isSpecial, Bool.or_eq_false_iff, beq_eq_false_iff_ne,
    List.mem_cons, List.not_mem_nil, or_false, not_or]
  tauto

theorem isMark_iff
    {digits : List Char} {mark : UInt32} :
    IsMark digits mark ↔ (∀ c ∈ digits, c.isDigit) ∧ markOf? digits = some mark := by
  have hvalue : digitsValue digits = Nat.ofDigitChars 10 digits 0 := rfl
  unfold markOf?
  rw [hvalue]
  constructor
  · rintro ⟨hne, hdigits, hmark⟩
    rw [hmark, if_pos ⟨hne, mark.toNat_lt⟩, UInt32.ofNat_toNat]
    exact ⟨hdigits, rfl⟩
  · rintro ⟨hdigits, hmark⟩
    split at hmark
    · rename_i h
      cases hmark
      refine ⟨h.1, hdigits, ?_⟩
      rw [UInt32.toNat_ofNat_of_lt' h.2]
    · cases hmark

/-- A text has no mark exactly when no digits in front of it are one. -/
theorem splitMark?_eq_none_iff
    {s : List Char} :
    splitMark? s = none ↔
      ∀ digits mark rest, IsMark digits mark → s ≠ digits ++ markSeparator :: rest := by
  constructor
  · rintro hnone digits mark rest hmark rfl
    rw [isMark_iff] at hmark
    rw [splitMark?_digits hmark.1 hmark.2] at hnone
    cases hnone
  · intro h
    cases hsplit : splitMark? s with
    | none =>
        rfl
    | some r =>
        obtain ⟨mark, digits, rest⟩ := r
        obtain ⟨hs, hdigits, hmark⟩ := eq_append_of_splitMark? hsplit
        exact absurd hs (h digits mark rest (isMark_iff.2 ⟨hdigits, hmark⟩))

end Characters

section Captures

theorem escapeCapture_cons
    (c : Char) (cs : List Char) :
    escapeCapture (c :: cs) =
      (if c = '>' then ['\\', c] else [c]) ++ escapeCapture cs := by
  rw [escapeCapture, List.flatMap_cons]
  rfl

/-- A body is escaped without a change to its last character. -/
theorem getLast?_escapeCapture
    (body : List Char) :
    (escapeCapture body).getLast? = body.getLast? := by
  induction body with
  | nil =>
      rfl
  | cons c cs ih =>
      rw [escapeCapture_cons, List.getLast?_append, ih]
      cases cs with
      | nil =>
          split <;> rfl
      | cons d ds =>
          rw [List.getLast?_cons_cons, List.getLast?_cons, Option.some_or]

/-- An escaped body does not start with a closing delimiter. -/
theorem escapeCapture_ne_cons
    (body s : List Char) :
    escapeCapture body ≠ '>' :: s := by
  cases body with
  | nil =>
      simp [escapeCapture]
  | cons c cs =>
      rw [escapeCapture_cons]
      by_cases hc : c = '>'
      · simp [hc]
      · simp [hc]

theorem guarded_escaped_iff
    {s : List Char} :
    Guarded ('\\' :: '>' :: s) ↔ Guarded s := by
  constructor
  · rintro h before after rfl
    have hlast := h ('\\' :: '>' :: before) after rfl
    cases before with
    | nil =>
        cases hlast
    | cons c cs =>
        simpa using hlast
  · rintro h before after hs
    match before with
    | [] =>
        cases hs
    | [c] =>
        cases hs
        rfl
    | c :: d :: before =>
        injection hs with _ hs
        injection hs with _ hs
        have hlast := h before after hs
        rw [List.getLast?_cons, List.getLast?_cons, hlast]
        rfl

theorem guarded_cons_iff
    {c : Char} {s : List Char}
    (hescape : ∀ rest, c = '\\' → s ≠ '>' :: rest) :
    Guarded (c :: s) ↔ c ≠ '>' ∧ Guarded s := by
  constructor
  · intro h
    constructor
    · rintro rfl
      cases h [] s rfl
    · rintro before after rfl
      have hlast := h (c :: before) after rfl
      cases before with
      | nil =>
          exact absurd rfl (hescape after (by simpa using hlast))
      | cons d ds =>
          rwa [List.getLast?_cons_cons] at hlast
  · rintro ⟨hc, h⟩ before after hs
    cases before with
    | nil =>
        cases hs
        exact absurd rfl hc
    | cons d before =>
        injection hs with _ hs
        rw [List.getLast?_cons, h before after hs]
        rfl

theorem guarded_escapeCapture
    (body : List Char) :
    Guarded (escapeCapture body) := by
  induction body with
  | nil =>
      rintro before after h
      simp [escapeCapture] at h
  | cons c cs ih =>
      rw [escapeCapture_cons]
      by_cases hc : c = '>'
      · subst hc
        exact guarded_escaped_iff.2 ih
      · rw [if_neg hc]
        exact (guarded_cons_iff fun rest _ => escapeCapture_ne_cons cs rest).2 ⟨hc, ih⟩

/-- The delimiters that were escaped are found again. -/
theorem unescapeCapture_escapeCapture
    (body : List Char) :
    unescapeCapture (escapeCapture body) = body := by
  induction body with
  | nil =>
      rfl
  | cons c cs ih =>
      rw [escapeCapture_cons]
      by_cases hc : c = '>'
      · subst hc
        exact congrArg ('>' :: ·) ih
      · rw [if_neg hc, List.singleton_append, unescapeCapture, ih]
        exact fun rest _ => escapeCapture_ne_cons cs rest

/-- A guarded text is its body with the closing delimiters escaped. -/
theorem escapeCapture_unescapeCapture
    {s : List Char}
    (h : Guarded s) :
    escapeCapture (unescapeCapture s) = s := by
  fun_induction unescapeCapture s with
  | case1 =>
      rfl
  | case2 s ih =>
      rw [escapeCapture_cons, if_pos rfl, ih (guarded_escaped_iff.1 h)]
      rfl
  | case3 c s hescape ih =>
      obtain ⟨hc, hs⟩ := (guarded_cons_iff hescape).1 h
      rw [escapeCapture_cons, if_neg hc, ih hs]
      rfl

end Captures

section Pieces

open Pattern.Tree

theorem Literal.sequenceText
    [Regex.Dialect]
    {s cs : List Char}
    (h : Literal s cs) :
    SequenceText s (cs.map .char) := by
  induction h with
  | nil =>
      exact .nil
  | plain plain others ih =>
      exact .cons (.plain (isSpecial_eq_false_iff.2 plain)) ih
  | escaped c others ih =>
      exact .cons (.escaped c) ih

theorem Literal.append
    {s cs ss ds : List Char}
    (h : Literal s cs)
    (h' : Literal ss ds) :
    Literal (s ++ ss) (cs ++ ds) := by
  induction h with
  | nil =>
      exact h'
  | plain plain others ih =>
      exact .plain plain ih
  | escaped c others ih =>
      exact .escaped c ih

theorem Node.isText_eq_false
    [Regex.Dialect]
    {s : List Char} {t : Tree}
    (h : Node s t) :
    t.isText = false := by
  cases h <;> rfl

/-- Without a text in front, no character comes before what pieces make up. -/
theorem gather_fst_eq_nil
    {ps : List Piece}
    (h : ∀ t ∈ (joinPieces ps).head?, t.isText = false) :
    (gather ps).1 = [] := by
  by_contra hne
  have htext := h (.text (String.ofList (gather ps).1))
  simp [joinPieces, withText, hne, isText] at htext

theorem optionalContent_of_ne
    {as : List (Marked Tree)}
    (h : ∀ t, as ≠ [⟨0, t⟩]) :
    optionalContent as = .choice as := by
  match as with
  | [] =>
      rfl
  | [⟨mark, t⟩] =>
      rw [optionalContent, if_neg]
      rintro rfl
      exact h t rfl
  | a :: b :: as =>
      rfl

mutual

/-- What is derived as a sequence is a sequence of pieces that make up the tree. -/
theorem Sequence.sequenceText [Regex.Dialect] :
    {s : List Char} → {t : Tree} → Sequence s t →
      ∃ ps, SequenceText s ps ∧ t = Tree.ofPieces ps
  | _, _, .empty =>
      ⟨[], .nil, rfl⟩
  | _, _, .single only => by
      obtain ⟨ps, hsequence, hjoin⟩ := only.sequenceText
      exact ⟨ps, hsequence, by rw [Tree.ofPieces, hjoin]; rfl⟩
  | _, _, .several parts => by
      obtain ⟨ps, hsequence, hjoin⟩ := parts.sequenceText
      exact ⟨ps, hsequence, by rw [Tree.ofPieces, hjoin]; rfl⟩

theorem Parts.sequenceText [Regex.Dialect] :
    {s : List Char} → {ts : List Tree} → Parts s ts →
      ∃ ps, SequenceText s ps ∧ joinPieces ps = ts
  | _, _, .nil =>
      ⟨[], .nil, rfl⟩
  | _, _, .text literal ne_nil others longest => by
      obtain ⟨ps, hsequence, rfl⟩ := others.sequenceText
      refine ⟨_, literal.sequenceText.append hsequence, ?_⟩
      -- the parts behind do not start with a text, so they do not make this one longer
      have hnil := gather_fst_eq_nil longest
      rw [joinPieces, joinPieces, gather_map_char_append, hnil, List.append_nil]
      simp [withText, ne_nil]
  | _, _, .node first others => by
      obtain ⟨ps, hsequence, rfl⟩ := others.sequenceText
      exact ⟨_, .cons first.pieceText hsequence, rfl⟩

theorem Node.pieceText [Regex.Dialect] :
    {s : List Char} → {t : Tree} → Node s t → PieceText s (.node t)
  | _, _, .optional content =>
      .optional content.alternativesText
  | _, _, .optionalChoice content ne_single => by
      have hpiece := PieceText.optional content.alternativesText
      rwa [optionalContent_of_ne ne_single] at hpiece
  | _, _, .choice content =>
      .choice content.alternativesText
  | _, _, .capture guarded closed accepted => by
      have hescape := escapeCapture_unescapeCapture guarded
      rw [← hescape, getLast?_escapeCapture] at closed
      have hpiece := PieceText.capture closed accepted
      rwa [hescape] at hpiece
  | _, _, .slot closed body =>
      .slot closed (readSlotBody_eq_ok_iff.2 body)

theorem Alternative.alternativeText [Regex.Dialect] :
    {s : List Char} → {a : Marked Tree} → Alternative s a → AlternativeText s a
  | _, _, .unmarked unmarked content => by
      obtain ⟨ps, hsequence, rfl⟩ := content.sequenceText
      exact .unmarked (splitMark?_eq_none_iff.2 unmarked) hsequence
  | _, _, .marked isMark content => by
      obtain ⟨ps, hsequence, rfl⟩ := content.sequenceText
      obtain ⟨hdigits, hmark⟩ := isMark_iff.1 isMark
      exact .marked hdigits hmark hsequence

theorem Alternatives.alternativesText [Regex.Dialect] :
    {s : List Char} → {as : List (Marked Tree)} → Alternatives s as →
      AlternativesText s as
  | _, _, .single only =>
      .single only.alternativeText
  | _, _, .cons first others =>
      .cons first.alternativeText others.alternativesText

end

/-- Whether a text is derived as a piece: as one character, or as a tree. -/
def PieceDerived
    [Regex.Dialect]
    (s : List Char) : Piece → Prop
  | .char c => Literal s [c]
  | .node t => Node s t

/-- Characters in front of parts that do not start
with a text are one text, if there are any. -/
theorem Parts.withText
    [Regex.Dialect]
    {s cs ss : List Char} {ts : List Tree}
    (literal : Literal s cs)
    (others : Parts ss ts)
    (longest : ∀ t ∈ ts.head?, t.isText = false) :
    Parts (s ++ ss) (Pattern.withText cs ts) := by
  cases cs with
  | nil =>
      cases literal
      exact others
  | cons c cs =>
      exact .text literal (by simp) others longest

theorem sequence_ofList
    [Regex.Dialect]
    {s : List Char} {ts : List Tree}
    (h : Parts s ts) :
    Sequence s (Tree.ofList ts) := by
  match ts with
  | [] =>
      cases h
      exact .empty
  | [t] =>
      exact .single h
  | t :: u :: ts =>
      exact .several h

/-- A text in which pieces are derived: characters, and
parts behind them that do not start with a text. -/
def Gathered
    [Regex.Dialect]
    (s : List Char) (ps : List Piece) : Prop :=
  ∃ s₁ s₂,
    s = s₁ ++ s₂ ∧
      Literal s₁ (gather ps).1 ∧
      Parts s₂ (gather ps).2 ∧
      ∀ t ∈ (gather ps).2.head?, t.isText = false

theorem Gathered.parts
    [Regex.Dialect]
    {s : List Char} {ps : List Piece}
    (h : Gathered s ps) :
    Parts s (joinPieces ps) := by
  obtain ⟨s₁, s₂, rfl, hliteral, hparts, hlongest⟩ := h
  exact hparts.withText hliteral hlongest

theorem Gathered.cons
    [Regex.Dialect]
    {s ss : List Char} {p : Piece} {ps : List Piece}
    (first : PieceDerived s p)
    (others : Gathered ss ps) :
    Gathered (s ++ ss) (p :: ps) := by
  cases p with
  | char c =>
      obtain ⟨s₁, s₂, rfl, hliteral, hparts, hlongest⟩ := others
      have hchar : Literal s [c] := first
      exact ⟨s ++ s₁, s₂, (List.append_assoc s s₁ s₂).symm,
        hchar.append hliteral, hparts, hlongest⟩
  | node t =>
      have hnode : Node s t := first
      refine ⟨[], _, rfl, .nil, .node hnode others.parts, ?_⟩
      rintro _ ⟨⟩
      exact hnode.isText_eq_false

theorem node_optionalContent
    [Regex.Dialect]
    {s : List Char} {as : List (Marked Tree)}
    (h : Alternatives s as) :
    Node ('[' :: (s ++ [']'])) (.optional (optionalContent as)) := by
  by_cases hsingle : ∃ t, as = [⟨0, t⟩]
  · obtain ⟨t, rfl⟩ := hsingle
    exact .optional h
  · have hchoice : ∀ t, as ≠ [⟨0, t⟩] := fun t ht => hsingle ⟨t, ht⟩
    rw [optionalContent_of_ne hchoice]
    exact .optionalChoice h hchoice

mutual

theorem gathered_of_sequenceText [Regex.Dialect] :
    {s : List Char} → {ps : List Piece} → SequenceText s ps → Gathered s ps
  | _, _, .nil =>
      ⟨[], [], rfl, .nil, .nil, by simp [gather]⟩
  | _, _, .cons first others =>
      (gathered_of_sequenceText others).cons (derived_of_pieceText first)

theorem derived_of_pieceText [Regex.Dialect] :
    {s : List Char} → {p : Piece} → PieceText s p → PieceDerived s p
  | _, _, .plain plain =>
      .plain (isSpecial_eq_false_iff.1 plain) .nil
  | _, _, .escaped c =>
      .escaped c .nil
  | _, _, .optional content =>
      node_optionalContent (alternatives_of_alternativesText content)
  | _, _, .choice content =>
      Node.choice (alternatives_of_alternativesText content)
  | _, _, @PieceText.capture _ body closed accepted => by
      have hunescape := unescapeCapture_escapeCapture body
      have hnode := Node.capture (guarded_escapeCapture body)
      rw [getLast?_escapeCapture, hunescape] at hnode
      exact hnode closed accepted
  | _, _, .slot closed accepted =>
      Node.slot closed (readSlotBody_eq_ok_iff.1 accepted)

theorem alternative_of_alternativeText [Regex.Dialect] :
    {s : List Char} → {a : Marked Tree} → AlternativeText s a → Alternative s a
  | _, _, .unmarked unmarked content =>
      .unmarked (splitMark?_eq_none_iff.1 unmarked)
        (sequence_ofList (gathered_of_sequenceText content).parts)
  | _, _, .marked digits_isDigit value content =>
      .marked (isMark_iff.2 ⟨digits_isDigit, value⟩)
        (sequence_ofList (gathered_of_sequenceText content).parts)

theorem alternatives_of_alternativesText [Regex.Dialect] :
    {s : List Char} → {as : List (Marked Tree)} →
      AlternativesText s as → Alternatives s as
  | _, _, .single only =>
      .single (alternative_of_alternativeText only)
  | _, _, .cons first others =>
      .cons (alternative_of_alternativeText first)
        (alternatives_of_alternativesText others)

end

end Pieces

end Derivation

/-- A pattern is read as a tree exactly when the
grammar derives the tree from its text. -/
theorem compile_eq_ok_iff
    [Regex.Dialect]
    {source : String} {t : Tree} :
    compile source = .ok t ↔ Derivation.Sequence source.toList t := by
  rw [compile_ok_iff, parse_ok_iff]
  constructor
  · rintro ⟨ps, hsequence, rfl⟩
    exact Derivation.sequence_ofList
      (Derivation.gathered_of_sequenceText hsequence).parts
  · intro h
    exact h.sequenceText

end Pattern
end TriggerScript
