import Mathlib
import TriggerScript.Proofs.Pattern.Canonical
import TriggerScript.Proofs.Pattern.Reading
import TriggerScript.Regex.Acceptance

/-!
# Patterns are read as they are written

A tree that was read from a pattern and written again is read as itself, except where the
text of an alternative without a mark looks like a mark: the text is then read as that
mark, and loses it.
-/

namespace TriggerScript
namespace Pattern

namespace Tree

mutual

/-- Whether an alternative without a mark is written
with a text in front that looks like one. -/
def hidesMark : Tree → Bool
  | .text _ => false
  | .optional inner => (splitMark? inner.write).isSome || inner.hidesMark
  | .choice alternatives => alternativesHideMark alternatives
  | .capture _ => false
  | .slot _ => false
  | .compound children => anyHidesMark children

def alternativesHideMark : List (Marked Tree) → Bool
  | [] => false
  | ⟨mark, t⟩ :: as =>
      (mark == 0 && (splitMark? t.write).isSome || t.hidesMark) ||
        alternativesHideMark as

def anyHidesMark : List Tree → Bool
  | [] => false
  | t :: ts => t.hidesMark || anyHidesMark ts

end

end Tree

open Pattern.Tree

/-- What something is read as that is written and read again: itself if it hides no mark,
and something with fewer letters if it does. -/
def Rereads {α : Type}
    (hides : Bool) (letters : α → Nat) (written reread : α) : Prop :=
  if hides then letters reread < letters written else reread = written

namespace Rereads

variable {α β γ : Type} {f : α → Nat} {g : β → Nat} {k : γ → Nat}

theorem refl
    (a : α) :
    Rereads false f a a := by
  rfl

/-- Nothing has more letters when it is read again. -/
theorem letters_le
    {hides : Bool} {a b : α}
    (h : Rereads hides f a b) :
    f b ≤ f a := by
  cases hides with
  | false => exact Nat.le_of_eq (congrArg f h)
  | true => exact Nat.le_of_lt h

/-- What is made of one thing is reread as it is. -/
theorem map
    {hides : Bool} {a a' : α}
    (h : Rereads hides f a a')
    (make : α → β)
    (hletters : ∀ x, g (make x) = f x) :
    Rereads hides g (make a) (make a') := by
  unfold Rereads
  rw [hletters, hletters]
  cases hides with
  | false => exact congrArg make h
  | true => exact h

/-- What is made of two things is reread as they are. -/
theorem map₂
    {hides hides' : Bool} {a a' : α} {b b' : β}
    (ha : Rereads hides f a a')
    (hb : Rereads hides' g b b')
    (make : α → β → γ)
    (hletters : ∀ x y, k (make x y) = f x + g y) :
    Rereads (hides || hides') k (make a b) (make a' b') := by
  have hle := ha.letters_le
  have hle' := hb.letters_le
  unfold Rereads
  rw [hletters, hletters]
  cases hides with
  | true =>
      have hlt : f a' < f a := ha
      exact Nat.add_lt_add_of_lt_of_le hlt hle'
  | false =>
      cases hides' with
      | true =>
          have hlt : g b' < g b := hb
          exact Nat.add_lt_add_of_le_of_lt hle hlt
      | false =>
          exact congr (congrArg make ha) hb

end Rereads

theorem markOf?_repr
    (mark : UInt32) :
    (∀ c ∈ (Nat.repr mark.toNat).toList, c.isDigit) ∧
      markOf? (Nat.repr mark.toNat).toList = some mark := by
  rw [Nat.toList_repr]
  refine ⟨fun c hc => Nat.isDigit_of_mem_toDigits (by decide) (by decide) hc, ?_⟩
  have hvalue : digitsValue (Nat.toDigits 10 mark.toNat) = mark.toNat :=
    Nat.ofDigitChars_ten_toDigits
  rw [markOf?, hvalue, if_pos ⟨Nat.toDigits_ne_nil, mark.toNat_lt⟩, UInt32.ofNat_toNat]

/-- Pieces without a mark that looks like a part
of them make up a sequence of fewer pieces. -/
theorem exists_of_splitMark?
    [Regex.Dialect]
    {s digits rest : List Char} {mark : UInt32} {ps : List Piece}
    (h : SequenceText s ps)
    (hsplit : splitMark? s = some (mark, digits, rest)) :
    ∃ qs,
      AlternativeText s ⟨mark, Tree.ofPieces qs⟩ ∧
        lettersOfPieces qs < lettersOfPieces ps := by
  obtain ⟨rfl, hdigits, hmark⟩ := eq_append_of_splitMark? hsplit
  have hplain : ∀ c ∈ digits ++ [markSeparator], isSpecial c = false := by
    intro c hc
    rcases List.mem_append.1 hc with hc | hc
    · exact isSpecial_of_isDigit (hdigits c hc)
    · rw [List.mem_singleton.1 hc]
      decide
  have hsequence : SequenceText (digits ++ [markSeparator] ++ rest) ps := by
    rwa [List.append_assoc]
  obtain ⟨qs, rfl, hrest⟩ := hsequence.of_plain_append hplain
  refine ⟨qs, .marked hdigits hmark hrest, ?_⟩
  rw [lettersOfPieces_append, lettersOfPieces_map_char, List.length_append]
  exact Nat.lt_add_of_pos_left (Nat.succ_pos _)

/-- A tree that is written as a sequence is what the pieces of the sequence make up. -/
theorem rereads_ofPieces
    [Regex.Dialect]
    {t : Tree} {ps : List Piece}
    (hcanonical : t.Canonical)
    (h : Rereads t.hidesMark lettersOfPieces t.pieces ps) :
    Rereads t.hidesMark Tree.letters t (Tree.ofPieces ps) := by
  have hmap := h.map Tree.ofPieces letters_ofPieces
  rwa [hcanonical.ofPieces_pieces] at hmap

/-- An alternative is read as it is written, unless
its text looks like a mark and it has none. -/
theorem rereads_alternative
    [Regex.Dialect]
    {t : Tree}
    (hcanonical : t.Canonical)
    (mark : UInt32)
    (h : ∃ ps, SequenceText t.write ps ∧
      Rereads t.hidesMark lettersOfPieces t.pieces ps) :
    ∃ a, AlternativeText (writeMark mark ++ t.write) a ∧
      Rereads (mark == 0 && (splitMark? t.write).isSome || t.hidesMark)
        (fun a => a.body.letters) ⟨mark, t⟩ a := by
  obtain ⟨ps, hsequence, hrereads⟩ := h
  have htree := rereads_ofPieces hcanonical hrereads
  by_cases hmark : mark = 0
  · subst hmark
    rw [writeMark, if_pos rfl, List.nil_append]
    cases hsplit : splitMark? t.write with
    | none =>
        refine ⟨_, .unmarked hsplit hsequence, ?_⟩
        rw [Option.isSome_none, Bool.and_false, Bool.false_or]
        exact htree.map (Marked.mk 0) fun _ => rfl
    | some r =>
        -- the text is read as a mark, which the tree that is read does not have in its
        -- text
        obtain ⟨qs, halternative, hlt⟩ := exists_of_splitMark? hsequence hsplit
        refine ⟨_, halternative, ?_⟩
        calc
          (Tree.ofPieces qs).letters = lettersOfPieces qs := letters_ofPieces qs
          _ < lettersOfPieces ps := hlt
          _ = (Tree.ofPieces ps).letters := (letters_ofPieces ps).symm
          _ ≤ t.letters := htree.letters_le
  · obtain ⟨hdigits, hvalue⟩ := markOf?_repr mark
    rw [writeMark, if_neg hmark, List.append_assoc, List.singleton_append]
    refine ⟨_, .marked hdigits hvalue hsequence, ?_⟩
    rw [beq_false_of_ne hmark, Bool.false_and, Bool.false_or]
    exact htree.map (Marked.mk mark) fun _ => rfl

/-- The content of an optional group is read as it
is written, if it stands in the group as it is. -/
theorem rereads_optional
    [Regex.Dialect]
    {inner : Tree}
    (hcanonical : inner.Canonical)
    (h : ∃ ps, SequenceText inner.write ps ∧
      Rereads inner.hidesMark lettersOfPieces inner.pieces ps)
    (hwrite : (Tree.optional inner).write = '[' :: (inner.write ++ [']'])) :
    ∃ ps, SequenceText (Tree.optional inner).write ps ∧
      Rereads (Tree.optional inner).hidesMark lettersOfPieces
        (Tree.optional inner).pieces ps := by
  obtain ⟨a, halternative, hrereads⟩ := rereads_alternative hcanonical 0 h
  rw [hwrite]
  refine ⟨_, (PieceText.optional (.single halternative)).sequence, ?_⟩
  refine hrereads.map (fun a => [Piece.node (.optional (optionalContent [a]))]) fun a =>
    ?_
  simp [lettersOfPieces, Piece.letters, Tree.letters, letters_optionalContent,
    lettersOfAlternatives]

/-- A choice stands in an optional group as it is,
if it has several alternatives or a marked one. -/
theorem optionalContent_of_isBareChoice
    {as : List (Marked Tree)}
    (h : isBareChoice (.choice as) = true) :
    optionalContent as = .choice as := by
  match as with
  | [] => rfl
  | [⟨mark, t⟩] =>
      rw [optionalContent, if_neg]
      rintro rfl
      cases h
  | a :: b :: as => rfl

theorem write_optional_of_isBareChoice
    {as : List (Marked Tree)}
    (h : isBareChoice (.choice as) = true) :
    (Tree.optional (.choice as)).write = '[' :: (writeAlternatives as ++ [']']) := by
  rw [write, if_pos h]
  rfl

/-- A choice is written with a parenthesis in front, which is no part of a mark. -/
theorem hidesMark_optional_choice
    (as : List (Marked Tree)) :
    (Tree.optional (.choice as)).hidesMark = alternativesHideMark as := by
  rw [hidesMark, write, hidesMark]
  rfl

mutual

/-- A canonical tree is written as a sequence of its pieces, unless it hides a mark. -/
theorem rereads [Regex.Dialect] :
    (t : Tree) → t.Canonical →
      ∃ ps, SequenceText t.write ps ∧ Rereads t.hidesMark lettersOfPieces t.pieces ps
  | .text s, _ =>
      ⟨_, sequenceText_escapeText s.toList, .refl _⟩
  | .optional (.choice as), h => by
      cases hbare : isBareChoice (.choice as) with
      | false =>
          refine rereads_optional h (rereads _ h) ?_
          rw [write, hbare]
          simp [write]
      | true =>
          obtain ⟨bs, halternatives, hrereads⟩ := rereadsAlternatives as h.1 h.2
          rw [write_optional_of_isBareChoice hbare, hidesMark_optional_choice]
          refine ⟨_, (PieceText.optional halternatives).sequence, ?_⟩
          have hletters : ∀ as,
            lettersOfPieces [.node (.optional (optionalContent as))] =
              lettersOfAlternatives as := by
            intro as
            simp [lettersOfPieces, Piece.letters, Tree.letters, letters_optionalContent]
          have hmap := hrereads.map _ hletters
          rwa [optionalContent_of_isBareChoice hbare] at hmap
  | .optional (.text s), h =>
      rereads_optional h (rereads _ h) rfl
  | .optional (.optional inner), h =>
      rereads_optional h (rereads _ h) rfl
  | .optional (.capture body), h =>
      rereads_optional h (rereads _ h) rfl
  | .optional (.slot s), h =>
      rereads_optional h (rereads _ h) rfl
  | .optional (.compound ts), h =>
      rereads_optional h (rereads _ h) rfl
  | .choice as, h => by
      obtain ⟨bs, halternatives, hrereads⟩ := rereadsAlternatives as h.1 h.2
      refine ⟨_, (PieceText.choice halternatives).sequence, ?_⟩
      exact hrereads.map (fun as => [Piece.node (.choice as)]) fun as => by
        simp [lettersOfPieces, Piece.letters, Tree.letters]
  | .capture body, h => by
      have hpiece := PieceText.capture h.2 h.1
      rw [String.ofList_toList] at hpiece
      exact ⟨_, hpiece.sequence, .refl _⟩
  | .slot s, h => by
      have hpiece := PieceText.slot h.not_mem h.readSlotBody_eq
      rw [Tree.write, Slot.write_eq]
      exact ⟨_, hpiece.sequence, .refl _⟩
  | .compound ts, h =>
      rereadsAll ts h.2.1.not_compound h.2.2

theorem rereadsAlternatives [Regex.Dialect] :
    (as : List (Marked Tree)) → as ≠ [] → AlternativesCanonical as →
      ∃ bs, AlternativesText (writeAlternatives as) bs ∧
        Rereads (alternativesHideMark as) lettersOfAlternatives as bs
  | [], hne, _ => absurd rfl hne
  | [⟨mark, t⟩], _, h => by
      obtain ⟨b, halternative, hrereads⟩ := rereads_alternative h.1 mark (rereads t h.1)
      refine ⟨[b], .single halternative, ?_⟩
      rw [alternativesHideMark, alternativesHideMark, Bool.or_false]
      exact hrereads.map (fun a => [a]) fun a => rfl
  | ⟨mark, t⟩ :: a :: as, _, h => by
      obtain ⟨b, halternative, hrereads⟩ := rereads_alternative h.1 mark (rereads t h.1)
      obtain ⟨bs, halternatives, hothers⟩ := rereadsAlternatives (a :: as) (by simp) h.2
      exact ⟨b :: bs, .cons halternative halternatives,
        hrereads.map₂ hothers List.cons fun _ _ => rfl⟩

theorem rereadsAll [Regex.Dialect] :
    (ts : List Tree) → (∀ t ∈ ts, t.isCompound = false) → AllCanonical ts →
      ∃ ps, SequenceText (writeAll ts) ps ∧
        Rereads (anyHidesMark ts) lettersOfPieces (ts.flatMap ownPieces) ps
  | [], _, _ =>
      ⟨[], .nil, .refl _⟩
  | t :: ts, hcompound, h => by
      rw [List.forall_mem_cons] at hcompound
      obtain ⟨ps, hfirst, hrereads⟩ := rereads t h.1
      obtain ⟨qs, hothers, hrereads'⟩ := rereadsAll ts hcompound.2 h.2
      rw [pieces_of_not_isCompound hcompound.1] at hrereads
      exact ⟨ps ++ qs, hfirst.append hothers,
        hrereads.map₂ hrereads' (· ++ ·) lettersOfPieces_append⟩

end

theorem compile_ok_iff
    [Regex.Dialect]
    {source : String} {t : Tree} :
    compile source = .ok t ↔ parse source.toList = .ok t := by
  unfold compile
  cases parse source.toList with
  | error fault =>
      simp [Except.mapError]
  | ok t =>
      simp [Except.mapError]

theorem canonical_of_parse
    [Regex.Dialect]
    {cs : List Char} {t : Tree}
    (h : parse cs = .ok t) :
    t.Canonical := by
  obtain ⟨ps, hsequence, rfl⟩ := parse_ok_iff.1 h
  exact canonical_ofPieces hsequence.canonical

/-- What a canonical tree is written as is read as the tree, unless it hides a mark. -/
theorem parse_write
    [Regex.Dialect]
    {t : Tree}
    (h : t.Canonical) :
    ∃ t', parse t.write = .ok t' ∧ Rereads t.hidesMark Tree.letters t t' := by
  obtain ⟨ps, hsequence, hrereads⟩ := rereads t h
  exact ⟨_, parse_ok_iff.2 ⟨ps, hsequence, rfl⟩, rereads_ofPieces h hrereads⟩

/-- The tree of a pattern can be written and read again. It is
read as itself exactly when none of its alternatives without a
mark is written with a text in front that looks like one. -/
theorem compile_source
    [Regex.Dialect]
    {source : String} {t : Tree}
    (h : compile source = .ok t) :
    ∃ t', compile t.source = .ok t' ∧ (t' = t ↔ t.hidesMark = false) := by
  obtain ⟨t', hparse, hrereads⟩ := parse_write (canonical_of_parse (compile_ok_iff.1 h))
  refine ⟨t', compile_ok_iff.2 ?_, ?_⟩
  · rw [Tree.source, String.toList_ofList]
    exact hparse
  · cases hhides : t.hidesMark with
    | false =>
        rw [hhides] at hrereads
        exact iff_of_true hrereads rfl
    | true =>
        rw [hhides] at hrereads
        refine iff_of_false ?_ (by simp)
        rintro rfl
        exact Nat.lt_irrefl _ hrereads

/-- A pattern with marks, an optional part and escaped characters. -/
def markedExample : Tree :=
  .choice [⟨1, .text "a|"⟩, ⟨0, .compound [.optional (.text "b"), .text "1¦"]⟩]

/-- It is read again as it is written. -/
theorem compile_source_markedExample :
    compile markedExample.source = .ok markedExample := by
  have hread : compile "(1¦a\\||[b]1¦)" = .ok markedExample := by
    cbv
  obtain ⟨t, ht, hsame⟩ := compile_source hread
  rw [ht, hsame.2 (by cbv)]

/-- A text that looks like a mark and was escaped
is not escaped again when it is written. -/
theorem not_forall_compile_source :
    ¬ ∀ (source : String) (t : Tree), compile source = .ok t →
      compile t.source = .ok t := by
  intro h
  have hread : compile "(\\1¦a)" = .ok (.choice [⟨0, .text "1¦a"⟩]) := by
    cbv
  have hreread : compile (Tree.source (.choice [⟨0, .text "1¦a"⟩])) =
      .ok (.choice [⟨1, .text "a"⟩]) := by
    cbv
  have heq := (h _ _ hread).symm.trans hreread
  cases heq

end Pattern
end TriggerScript
