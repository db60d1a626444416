import TriggerScript.Pattern.Reading

/-!
# The grammar of patterns

Which texts are sequences of pieces, single pieces, and alternatives, without regard to
how they are read: every rule puts texts together.
-/

namespace TriggerScript
namespace Pattern

variable [Regex.Dialect]

mutual

/-- A text that is a sequence of pieces. -/
inductive SequenceText :
    List Char → List Piece → Prop
  | nil :
      SequenceText [] []
  | cons
      {s ss : List Char} {p : Piece} {ps : List Piece}
      (first : PieceText s p)
      (others : SequenceText ss ps) :
      SequenceText (s ++ ss) (p :: ps)

/-- A text that is one piece. -/
inductive PieceText :
    List Char → Piece → Prop
  | plain
      {c : Char}
      (plain : isSpecial c = false) :
      PieceText [c] (.char c)
  | escaped
      (c : Char) :
      PieceText ['\\', c] (.char c)
  | optional
      {s : List Char} {alternatives : List (Marked Tree)}
      (content : AlternativesText s alternatives) :
      PieceText ('[' :: (s ++ [']'])) (.node (.optional (optionalContent alternatives)))
  | choice
      {s : List Char} {alternatives : List (Marked Tree)}
      (content : AlternativesText s alternatives) :
      PieceText ('(' :: (s ++ [')'])) (.node (.choice alternatives))
  | capture
      {body : List Char}
      (closed : body.getLast? ≠ some '\\')
      (accepted : Regex.Dialect.complaint? body = none) :
      PieceText ('<' :: (escapeCapture body ++ ['>']))
        (.node (.capture (String.ofList body)))
  | slot
      {body : List Char} {s : Slot}
      (closed : '%' ∉ body)
      (accepted : readSlotBody body = .ok s) :
      PieceText ('%' :: (body ++ ['%'])) (.node (.slot s))

/-- A text that is one alternative. Without a mark it must not look as if it had one. -/
inductive AlternativeText :
    List Char → Marked Tree → Prop
  | unmarked
      {s : List Char} {ps : List Piece}
      (unmarked : splitMark? s = none)
      (content : SequenceText s ps) :
      AlternativeText s ⟨0, Tree.ofPieces ps⟩
  | marked
      {digits s : List Char} {mark : UInt32} {ps : List Piece}
      (digits_isDigit : ∀ c ∈ digits, c.isDigit)
      (value : markOf? digits = some mark)
      (content : SequenceText s ps) :
      AlternativeText (digits ++ markSeparator :: s) ⟨mark, Tree.ofPieces ps⟩

/-- A text that is several alternatives with bars between them. -/
inductive AlternativesText :
    List Char → List (Marked Tree) → Prop
  | single
      {s : List Char} {a : Marked Tree}
      (only : AlternativeText s a) :
      AlternativesText s [a]
  | cons
      {s ss : List Char} {a : Marked Tree} {as : List (Marked Tree)}
      (first : AlternativeText s a)
      (others : AlternativesText ss as) :
      AlternativesText (s ++ '|' :: ss) (a :: as)

end

theorem PieceText.sequence
    {s : List Char} {p : Piece}
    (h : PieceText s p) :
    SequenceText s [p] := by
  have hs := SequenceText.cons h .nil
  rwa [List.append_nil] at hs

theorem SequenceText.append
    {s t : List Char} {ps qs : List Piece}
    (hs : SequenceText s ps)
    (ht : SequenceText t qs) :
    SequenceText (s ++ t) (ps ++ qs) := by
  induction ps generalizing s with
  | nil =>
      cases hs
      exact ht
  | cons p ps ih =>
      cases hs with
      | cons first others =>
          rw [List.append_assoc]
          exact .cons first (ih others)

/-- A text with its special characters escaped is the sequence of its characters. -/
theorem sequenceText_escapeText
    (cs : List Char) :
    SequenceText (escapeText cs) (cs.map .char) := by
  induction cs with
  | nil =>
      exact .nil
  | cons c cs ih =>
      rw [escapeText, List.flatMap_cons]
      refine .cons ?_ ih
      split
      · exact .escaped c
      · rename_i hc
        exact .plain (by simpa using hc)

/-- No piece starts with a character that ends a sequence. -/
theorem PieceText.exists_cons
    {s : List Char} {p : Piece}
    (h : PieceText s p) :
    ∃ c cs, s = c :: cs ∧ c ≠ ']' ∧ c ≠ ')' ∧ c ≠ '|' := by
  cases h with
  | plain plain =>
      refine ⟨_, _, rfl, ?_, ?_, ?_⟩ <;> rintro rfl <;> simp [isSpecial] at plain
  | escaped c =>
      exact ⟨_, _, rfl, by decide, by decide, by decide⟩
  | optional content =>
      exact ⟨_, _, rfl, by decide, by decide, by decide⟩
  | choice content =>
      exact ⟨_, _, rfl, by decide, by decide, by decide⟩
  | capture closed accepted =>
      exact ⟨_, _, rfl, by decide, by decide, by decide⟩
  | slot closed accepted =>
      exact ⟨_, _, rfl, by decide, by decide, by decide⟩

theorem SequenceText.of_plain_cons
    {c : Char} {cs : List Char} {ps : List Piece}
    (h : SequenceText (c :: cs) ps)
    (hc : isSpecial c = false) :
    ∃ qs, ps = .char c :: qs ∧ SequenceText cs qs := by
  generalize hs : c :: cs = s at h
  cases h with
  | nil =>
      cases hs
  | cons first others =>
      cases first with
      | plain plain =>
          cases hs
          exact ⟨_, rfl, others⟩
      | _ =>
          -- every other piece starts with a special character
          cases hs
          cases hc

/-- A sequence that starts with plain characters starts with them as its first pieces. -/
theorem SequenceText.of_plain_append
    {cs rest : List Char} {ps : List Piece}
    (h : SequenceText (cs ++ rest) ps)
    (hcs : ∀ c ∈ cs, isSpecial c = false) :
    ∃ qs, ps = cs.map .char ++ qs ∧ SequenceText rest qs := by
  induction cs generalizing ps with
  | nil =>
      exact ⟨ps, rfl, h⟩
  | cons c cs ih =>
      rw [List.forall_mem_cons] at hcs
      obtain ⟨qs, rfl, hqs⟩ := h.of_plain_cons hcs.1
      obtain ⟨rs, rfl, hrs⟩ := ih hqs hcs.2
      exact ⟨rs, rfl, hrs⟩

end Pattern
end TriggerScript
