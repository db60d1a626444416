import TriggerScript.Proofs.Pattern.Faults

/-!
# Faults of longer patterns

What becomes of a fault when the pattern gets longer. Behind more pieces it is the same
fault further on, and no fault reaches beyond the end of the pattern. A fault that does
not come from the end of the pattern stays where it is, whatever is added behind it.
-/

namespace TriggerScript
namespace Pattern

/-- The group, opened further on. -/
def OpenGroup.shift
    (k : Nat) (g : OpenGroup) : OpenGroup :=
  ⟨g.kind, g.offset + k⟩

namespace Fault

/-- The fault, further on. -/
def shift
    (k : Nat) : Fault → Fault
  | .unclosed opener closer offset => .unclosed opener closer (offset + k)
  | .unmatched c offset => .unmatched c (offset + k)
  | .danglingEscape offset => .danglingEscape (offset + k)
  | .badCapture body reason start stop => .badCapture body reason (start + k) (stop + k)
  | .emptySlot start stop => .emptySlot (start + k) (stop + k)
  | .conflictingModifiers start stop => .conflictingModifiers (start + k) (stop + k)
  | .badTypeName c name start stop => .badTypeName c name (start + k) (stop + k)

/-- The offset of the first byte that is at fault. -/
def start : Fault → Nat
  | .unclosed _ _ offset => offset
  | .unmatched _ offset => offset
  | .danglingEscape offset => offset
  | .badCapture _ _ start _ => start
  | .emptySlot start _ => start
  | .conflictingModifiers start _ => start
  | .badTypeName _ _ start _ => start

/-- The offset behind the last byte that is at fault. -/
def stop : Fault → Nat
  | .unclosed opener _ offset => offset + opener.utf8Size
  | .unmatched _ offset => offset + 1
  | .danglingEscape offset => offset + 1
  | .badCapture _ _ _ stop => stop
  | .emptySlot _ stop => stop
  | .conflictingModifiers _ stop => stop
  | .badTypeName _ _ _ stop => stop

/-- Whether the fault comes from the end of the pattern, where something is missing. -/
def atEnd : Fault → Bool
  | .unclosed _ _ _ => true
  | .danglingEscape _ => true
  | _ => false

end Fault

theorem SlotFault.toFault_shift
    (k start stop : Nat) (fault : SlotFault) :
    (fault.toFault start stop).shift k = fault.toFault (start + k) (stop + k) := by
  cases fault <;> rfl

theorem SlotFault.start_toFault
    (start stop : Nat) (fault : SlotFault) :
    (fault.toFault start stop).start = start := by
  cases fault <;> rfl

theorem SlotFault.stop_toFault
    (start stop : Nat) (fault : SlotFault) :
    (fault.toFault start stop).stop = stop := by
  cases fault <;> rfl

theorem stops_map_shift
    (k : Nat) (g : Option OpenGroup) (c : Char) :
    stops (g.map (OpenGroup.shift k)) c = stops g c := by
  cases g <;> rfl

mutual

/-- A text has the same faults further on. -/
theorem SequenceFault.shift
    [Regex.Dialect]
    (k : Nat) :
    {g : Option OpenGroup} → {offset : Nat} → {s : List Char} → {f : Fault} →
      SequenceFault g offset s f →
        SequenceFault (g.map (OpenGroup.shift k)) (offset + k) s (f.shift k)
  | _, _, _, _, .unclosed g offset =>
      .unclosed (g.shift k) (offset + k)
  | g, _, _, _, .first goes_on first =>
      .first ((stops_map_shift k g _).trans goes_on) (first.shift k)
  | _, _, _, _, .later first others => by
      have hothers := others.shift k
      rw [Nat.add_right_comm] at hothers
      exact .later first hothers

theorem PieceFault.shift
    [Regex.Dialect]
    (k : Nat) :
    {offset : Nat} → {c : Char} → {tail : List Char} → {f : Fault} →
      PieceFault offset c tail f → PieceFault (offset + k) c tail (f.shift k)
  | _, _, _, _, .unmatched closes offset tail =>
      .unmatched closes (offset + k) tail
  | _, _, _, _, .danglingEscape offset =>
      .danglingEscape (offset + k)
  | _, _, _, _, .group kind content => by
      have hcontent := content.shift k
      rw [Nat.add_right_comm] at hcontent
      exact .group kind hcontent
  | _, _, _, _, .unclosedCapture unclosed offset =>
      .unclosedCapture unclosed (offset + k)
  | _, _, _, _, @PieceFault.badCapture _ body _ closed rejected offset tail => by
      have hfault := PieceFault.badCapture closed rejected (offset + k) tail
      rwa [show offset + k + 1 + captureLength body + 1 =
        offset + 1 + captureLength body + 1 + k by
        omega] at hfault
  | _, _, _, _, .unclosedSlot unclosed offset =>
      .unclosedSlot unclosed (offset + k)
  | _, _, _, _, @PieceFault.badSlot _ body _ closed rejected offset tail => by
      have hfault := PieceFault.badSlot closed rejected (offset + k) tail
      rwa [show offset + k + 1 + Text.byteLength body + 1 =
        offset + 1 + Text.byteLength body + 1 + k by omega, ← SlotFault.toFault_shift]
          at hfault

theorem AlternativesFault.shift
    [Regex.Dialect]
    (k : Nat) :
    {g : OpenGroup} → {offset : Nat} → {s : List Char} → {f : Fault} →
      AlternativesFault g offset s f →
      AlternativesFault (g.shift k) (offset + k) s (f.shift k)
  | _, _, _, _, .unmarked unmarked content =>
      .unmarked unmarked (content.shift k)
  | _, offset, _, _,
      @AlternativesFault.marked _ _ _ digits _ _ _ digits_isDigit value content => by
      have hcontent := content.shift k
      rw [Nat.add_right_comm, Nat.add_right_comm offset] at hcontent
      exact .marked digits_isDigit value hcontent
  | _, offset, _, _, .later first others => by
      have hothers := others.shift k
      rw [Nat.add_right_comm, Nat.add_right_comm offset] at hothers
      exact .later first hothers

end

/-- Whether a fault takes bytes before an offset, and none behind it. -/
structure Fault.Before
    (f : Fault) (offset : Nat) : Prop where
  start_lt : f.start < f.stop
  stop_le : f.stop ≤ offset

theorem Fault.Before.of_first
    {f : Fault} {offset size : Nat} {tail : List Char}
    (hstart : f.start < f.stop)
    (hstop : f.stop ≤ offset + size) :
    f.Before (offset + (size + Text.byteLength tail)) := by
  rw [← Nat.add_assoc]
  exact ⟨hstart, Nat.le_add_right_of_le hstop⟩

theorem OpenGroup.unclosed_before
    {g : OpenGroup} {offset : Nat}
    (h : g.offset < offset) :
    g.unclosed.Before offset := by
  have hsize : g.kind.opener.utf8Size = 1 := by
    cases g.kind <;> rfl
  refine ⟨?_, ?_⟩ <;>
    simp only [OpenGroup.unclosed, Fault.start, Fault.stop, hsize] <;> omega

mutual

/-- No fault reaches beyond the end of the text, if
the group around it is opened before the text. -/
theorem SequenceFault.before [Regex.Dialect] :
    {g : Option OpenGroup} → {offset : Nat} → {s : List Char} → {f : Fault} →
      SequenceFault g offset s f → (∀ o ∈ g, o.offset < offset) →
        f.Before (offset + Text.byteLength s)
  | _, _, _, _, .unclosed g offset, hg =>
      g.unclosed_before (hg g rfl)
  | _, _, _, _, .first goes_on first, _ =>
      first.before
  | _, offset, _, _, .later first others, hg => by
      rw [Text.byteLength_append, ← Nat.add_assoc]
      exact others.before fun o ho => Nat.lt_add_right _ (hg o ho)

theorem PieceFault.before [Regex.Dialect] :
    {offset : Nat} → {c : Char} → {tail : List Char} → {f : Fault} →
      PieceFault offset c tail f → f.Before (offset + Text.byteLength (c :: tail))
  | _, c, _, _, .unmatched _ offset tail =>
      .of_first (Nat.lt_succ_self offset) (Nat.add_le_add_left c.utf8Size_pos offset)
  | _, _, _, _, .danglingEscape offset =>
      .of_first (Nat.lt_succ_self offset) (Nat.le_refl _)
  | offset, _, s, _, .group kind content => by
      have hcontent := content.before (Nat.lt_succ_self offset)
      have hsize : kind.opener.utf8Size = 1 := by
        cases kind <;> rfl
      rwa [Text.byteLength_cons, hsize, ← Nat.add_assoc]
  | _, _, _, _, .unclosedCapture _ offset =>
      .of_first (Nat.lt_succ_self offset) (Nat.le_refl _)
  | _, _, _, _, @PieceFault.badCapture _ body _ _ _ offset tail => by
      rw [byteLength_delimited rfl rfl]
      refine ⟨?_, ?_⟩ <;> simp only [Fault.start, Fault.stop, captureLength] <;> omega
  | _, _, _, _, .unclosedSlot _ offset =>
      .of_first (Nat.lt_succ_self offset) (Nat.le_refl _)
  | _, _, _, _, @PieceFault.badSlot _ body _ _ _ offset tail => by
      rw [byteLength_delimited rfl rfl]
      refine ⟨?_, ?_⟩ <;>
        simp only [SlotFault.start_toFault, SlotFault.stop_toFault] <;> omega

theorem AlternativesFault.before [Regex.Dialect] :
    {g : OpenGroup} → {offset : Nat} → {s : List Char} → {f : Fault} →
      AlternativesFault g offset s f → g.offset < offset →
      f.Before (offset + Text.byteLength s)
  | _, _, _, _, .unmarked _ content, hg =>
      content.before fun _ ho => Option.mem_some.1 ho ▸ hg
  | g, offset, _, _, @AlternativesFault.marked _ _ _ digits s _ _ _ _ content, hg => by
      have hcontent := content.before fun o ho => by
        rw [← Option.mem_some.1 ho, Nat.add_assoc]
        exact Nat.lt_add_right _ hg
      rwa [Text.byteLength_append, Text.byteLength_cons,
        ← Nat.add_assoc, ← Nat.add_assoc]
  | _, offset, _, _, @AlternativesFault.later _ _ _ s ss _ _ _ others, hg => by
      have hothers := others.before (by omega)
      rwa [byteLength_bar, ← Nat.add_assoc, ← Nat.add_assoc]

end

/-- Which faults come from the end of a pattern shows in their codes. -/
theorem Fault.atEnd_eq_false_iff
    (f : Fault) :
    f.atEnd = false ↔
      f.explain.code ∈ [.unmatchedCloser, .invalidCapture, .emptySlot,
        .invalidModifier] := by
  cases f <;> simp [atEnd, explain, Report.Diagnostic.withMessage,
    Report.Diagnostic.withLabel, Report.Diagnostic.withNote, Report.Diagnostic.error]

theorem PieceFault.isSpecial
    [Regex.Dialect]
    {offset : Nat} {c : Char} {tail : List Char} {f : Fault}
    (h : PieceFault offset c tail f) :
    isSpecial c = true := by
  cases h with
  | unmatched closes =>
      rcases closes with rfl | rfl | rfl <;> rfl
  | group kind =>
      cases kind <;> rfl
  | _ =>
      rfl

/-- There is a special character in a text with a
fault that does not come from its end. -/
theorem SequenceFault.exists_isSpecial [Regex.Dialect] :
    {g : Option OpenGroup} → {offset : Nat} → {s : List Char} → {f : Fault} →
      SequenceFault g offset s f → f.atEnd = false → ∃ c ∈ s, isSpecial c = true
  | _, _, _, _, .unclosed _ _, h =>
      nomatch h
  | _, _, _, _, .first _ piece, _ =>
      ⟨_, List.mem_cons_self, piece.isSpecial⟩
  | _, _, _, _, .later _ others, h => by
      obtain ⟨c, hc, hspecial⟩ := others.exists_isSpecial h
      exact ⟨c, List.mem_append_right _ hc, hspecial⟩

/-- What is no mark on account of a special character is none in a longer text. -/
theorem splitMark?_append_eq_none
    {s : List Char}
    (h : splitMark? s = none)
    (hspecial : ∃ c ∈ s, isSpecial c = true)
    (rest : List Char) :
    splitMark? (s ++ rest) = none := by
  obtain ⟨c, hc, hspecial⟩ := hspecial
  have hdigit : c.isDigit = false := by
    rw [← Bool.not_eq_true]
    intro hdigit
    rw [isSpecial_of_isDigit hdigit] at hspecial
    cases hspecial
  have hsep : c ≠ markSeparator := by
    rintro rfl
    cases hspecial
  obtain ⟨before, after, rfl⟩ := List.append_of_mem hc
  rw [splitMark?_append_eq_none_iff hdigit hsep] at h
  rw [List.append_assoc, List.cons_append]
  exact (splitMark?_append_eq_none_iff hdigit hsep before _).2 h

mutual

/-- A fault that does not come from the end of the text stays if the text gets longer. -/
theorem SequenceFault.append
    [Regex.Dialect]
    (rest : List Char) :
    {g : Option OpenGroup} → {offset : Nat} → {s : List Char} → {f : Fault} →
      SequenceFault g offset s f → f.atEnd = false → SequenceFault g offset (s ++ rest) f
  | _, _, _, _, .unclosed _ _, h =>
      nomatch h
  | _, _, _, _, .first goes_on first, h =>
      .first goes_on (first.append rest h)
  | _, _, _, _, .later first others, h => by
      rw [List.append_assoc]
      exact .later first (others.append rest h)

theorem PieceFault.append
    [Regex.Dialect]
    (rest : List Char) :
    {offset : Nat} → {c : Char} → {tail : List Char} → {f : Fault} →
      PieceFault offset c tail f → f.atEnd = false → PieceFault offset c (tail ++ rest) f
  | _, _, _, _, .unmatched closes offset tail, _ =>
      .unmatched closes offset (tail ++ rest)
  | _, _, _, _, .danglingEscape _, h =>
      nomatch h
  | _, _, _, _, .group kind content, h =>
      .group kind (content.append rest h)
  | _, _, _, _, .unclosedCapture _ _, h =>
      nomatch h
  | _, _, _, _, .badCapture closed rejected offset tail, _ => by
      rw [List.append_assoc, List.cons_append]
      exact .badCapture closed rejected offset (tail ++ rest)
  | _, _, _, _, .unclosedSlot _ _, h =>
      nomatch h
  | _, _, _, _, .badSlot closed rejected offset tail, _ => by
      rw [List.append_assoc, List.cons_append]
      exact .badSlot closed rejected offset (tail ++ rest)

theorem AlternativesFault.append
    [Regex.Dialect]
    (rest : List Char) :
    {g : OpenGroup} → {offset : Nat} → {s : List Char} → {f : Fault} →
      AlternativesFault g offset s f → f.atEnd = false →
      AlternativesFault g offset (s ++ rest) f
  | _, _, _, _, .unmarked unmarked content, h =>
      .unmarked (splitMark?_append_eq_none unmarked (content.exists_isSpecial h) rest)
        (content.append rest h)
  | _, _, _, _, .marked digits_isDigit value content, h => by
      rw [List.append_assoc, List.cons_append]
      exact .marked digits_isDigit value (content.append rest h)
  | _, _, _, _, .later first others, h => by
      rw [List.append_assoc, List.cons_append]
      exact .later first (others.append rest h)

end

/-- A fault behind pieces is a fault of the whole. -/
theorem SequenceText.append_fault
    [Regex.Dialect]
    {s t : List Char} {ps : List Piece} {g : Option OpenGroup} {offset : Nat} {f : Fault}
    (hs : SequenceText s ps)
    (ht : SequenceFault g (offset + Text.byteLength s) t f) :
    SequenceFault g offset (s ++ t) f := by
  induction ps generalizing s offset with
  | nil =>
      cases hs
      exact ht
  | cons p ps ih =>
      cases hs with
      | cons first others =>
          rw [Text.byteLength_append, ← Nat.add_assoc] at ht
          rw [List.append_assoc]
          exact .later first (ih others ht)

end Pattern
end TriggerScript
