import TriggerScript.Proofs.Pattern.Writing

/-!
# Patterns of trees

Every canonical tree is read from some pattern. The pattern in which a tree is written
need not be one, since a text can look like a mark; here each alternative is given its
mark in digits, also the mark zero, so that what stands behind is never taken for one.
-/

namespace TriggerScript
namespace Pattern

def encodeMark
    (mark : UInt32) : List Char :=
  (Nat.repr mark.toNat).toList ++ [markSeparator]

namespace Tree

mutual

/-- A pattern of a tree in which each alternative has its mark. -/
def encode : Tree → List Char
  | .text s => escapeText s.toList
  | .optional inner => '[' :: ((encodeMark 0 ++ inner.encode) ++ [']'])
  | .choice alternatives => '(' :: (encodeAlternatives alternatives ++ [')'])
  | .capture body => '<' :: (escapeCapture body.toList ++ ['>'])
  | .slot s => s.write
  | .compound children => encodeAll children

def encodeAlternatives : List (Marked Tree) → List Char
  | [] => []
  | [⟨mark, t⟩] => encodeMark mark ++ t.encode
  | ⟨mark, t⟩ :: a :: as =>
      (encodeMark mark ++ t.encode) ++ '|' :: encodeAlternatives (a :: as)

def encodeAll : List Tree → List Char
  | [] => []
  | t :: ts => t.encode ++ encodeAll ts

end

end Tree

open Pattern.Tree

/-- Behind a mark in digits, a sequence is an alternative with that mark. -/
theorem alternativeText_encodeMark
    [Regex.Dialect]
    {t : Tree} {s : List Char}
    (hcanonical : t.Canonical)
    (mark : UInt32)
    (h : SequenceText s t.pieces) :
    AlternativeText (encodeMark mark ++ s) ⟨mark, t⟩ := by
  obtain ⟨hdigits, hvalue⟩ := markOf?_repr mark
  have halternative := AlternativeText.marked hdigits hvalue h
  rwa [hcanonical.ofPieces_pieces, ← List.singleton_append,
    ← List.append_assoc] at halternative

mutual

/-- A canonical tree is encoded as a sequence of its pieces. -/
theorem sequenceText_encode [Regex.Dialect] :
    (t : Tree) → t.Canonical → SequenceText t.encode t.pieces
  | .text s, _ =>
      sequenceText_escapeText s.toList
  | .optional inner, h => by
      have hinner : inner.Canonical := h
      have halternative :=
        alternativeText_encodeMark hinner 0 (sequenceText_encode inner hinner)
      exact (PieceText.optional (.single halternative)).sequence
  | .choice as, h =>
      (PieceText.choice (alternativesText_encode as h.1 h.2)).sequence
  | .capture body, h => by
      have hpiece := PieceText.capture h.2 h.1
      rw [String.ofList_toList] at hpiece
      exact hpiece.sequence
  | .slot s, h => by
      have hpiece := PieceText.slot h.not_mem h.readSlotBody_eq
      rw [encode, Slot.write_eq]
      exact hpiece.sequence
  | .compound ts, h =>
      sequenceText_encodeAll ts h.2.1.not_compound h.2.2

theorem alternativesText_encode [Regex.Dialect] :
    (as : List (Marked Tree)) → as ≠ [] → AlternativesCanonical as →
      AlternativesText (encodeAlternatives as) as
  | [], hne, _ => absurd rfl hne
  | [⟨mark, t⟩], _, h =>
      .single (alternativeText_encodeMark h.1 mark (sequenceText_encode t h.1))
  | ⟨mark, t⟩ :: a :: as, _, h =>
      .cons (alternativeText_encodeMark h.1 mark (sequenceText_encode t h.1))
        (alternativesText_encode (a :: as) (by simp) h.2)

theorem sequenceText_encodeAll [Regex.Dialect] :
    (ts : List Tree) → (∀ t ∈ ts, t.isCompound = false) → AllCanonical ts →
      SequenceText (encodeAll ts) (ts.flatMap ownPieces)
  | [], _, _ => .nil
  | t :: ts, hcompound, h => by
      rw [List.forall_mem_cons] at hcompound
      have hfirst := sequenceText_encode t h.1
      rw [pieces_of_not_isCompound hcompound.1] at hfirst
      exact hfirst.append (sequenceText_encodeAll ts hcompound.2 h.2)

end

/-- The encoding of a canonical tree is read as the tree. -/
theorem parse_encode
    [Regex.Dialect]
    {t : Tree}
    (h : t.Canonical) :
    parse t.encode = .ok t :=
  parse_ok_iff.2 ⟨t.pieces, sequenceText_encode t h, h.ofPieces_pieces.symm⟩

/-- The trees that patterns are read as are the canonical
trees, with names for types as in `isName_iff`. -/
theorem exists_compile_iff
    [Regex.Dialect]
    {t : Tree} :
    (∃ source, compile source = .ok t) ↔ t.Canonical := by
  constructor
  · rintro ⟨source, h⟩
    exact canonical_of_parse (compile_ok_iff.1 h)
  · intro h
    refine ⟨String.ofList t.encode, compile_ok_iff.2 ?_⟩
    rw [String.toList_ofList]
    exact parse_encode h

/-- A text that looks like a mark, in an alternative without one. -/
example [Regex.Dialect] :
    compile (String.ofList (Tree.choice [⟨0, .text "1¦a"⟩]).encode) =
    .ok (.choice [⟨0, .text "1¦a"⟩]) := by
  cbv

end Pattern
end TriggerScript
