import TriggerScript.Proofs.Pattern.Concatenation
import TriggerScript.Proofs.Pattern.Openings
import TriggerScript.Proofs.Report.Underlining
import TriggerScript.Regex.Acceptance

/-!
# What is at fault in a pattern

The label of a diagnostic about a pattern stands under a part of the pattern that can be
told without reading it: the opener of what is still open, a character that closes
nothing, a whole capture or slot, or the escape character at the end.
-/

namespace TriggerScript
namespace Pattern

open Report
open Text (byteLength)
open Pattern.Derivation (Guarded guarded_escapeCapture getLast?_escapeCapture)

/-- Whether a part of a text, with what is before
and after it, is at fault in the way of a code. -/
inductive Blamed :
    List Char → List Char → List Char → Code → Prop
  /-- The opener of the innermost of what is still open at the end. -/
  | unclosed
      {before after : List Char} {opener : Char}
      (innermost : (scan (before ++ [opener] ++ after)).openings.head? =
        some (opener, byteLength before)) :
      Blamed before [opener] after .unclosedGroup
  /-- A character of a text that would end the innermost
  group or an alternative of it, but does not. -/
  | unmatched
      {before : List Char} {c : Char}
      (closer : c = ']' ∨ c = ')' ∨ c = '|')
      (in_text : (scan before).mode = .text)
      (stray : stops (scan before).groups.head? c = false)
      (after : List Char) :
      Blamed before [c] after .unmatchedCloser
  /-- A capture up to the first closing delimiter that is not escaped. -/
  | capture
      {before body : List Char}
      (opened : (scan (before ++ ['<'])).openings.head? = some ('<', byteLength before))
      (guarded : Guarded body)
      (closed : body.getLast? ≠ some '\\')
      (after : List Char) :
      Blamed before ('<' :: (body ++ ['>'])) after .invalidCapture
  /-- A slot up to the next delimiter. -/
  | slot
      {before body : List Char} {code : Code}
      (opened : (scan (before ++ ['%'])).openings.head? = some ('%', byteLength before))
      (closed : '%' ∉ body)
      (after : List Char)
      (code_eq : code = .emptySlot ∨ code = .invalidModifier) :
      Blamed before ('%' :: (body ++ ['%'])) after code
  /-- The last character, where it escapes. -/
  | danglingEscape
      {before : List Char}
      (in_text : (scan before).mode = .text) :
      Blamed before ['\\'] [] .danglingEscape

/-- A part of a text that a fault covers, and that is at fault in its way. -/
structure Fault.Covers
    (f : Fault) (source before snippet after : List Char) : Prop where
  source_eq : source = before ++ snippet ++ after
  start_eq : f.start = byteLength before
  stop_eq : f.stop = byteLength (before ++ snippet)
  blamed : Blamed before snippet after f.explain.code

theorem SlotFault.code_toFault
    (start stop : Nat) (fault : SlotFault) :
    (fault.toFault start stop).explain.code = .emptySlot ∨
      (fault.toFault start stop).explain.code = .invalidModifier := by
  cases fault with
  | emptyName => exact .inl rfl
  | conflictingModifiers => exact .inr rfl
  | badCharacter c name => exact .inr rfl

section Faults

variable {offset : Nat} {read : List Char} {gs : List OpenGroup}

theorem byteLength_of_scan
    (hread : scan read = .text gs offset) :
    byteLength read = offset := by
  rw [← offset_scan, hread]
  rfl

theorem scan_capture
    (hread : scan read = .text gs offset) :
    scan (read ++ ['<']) = ⟨gs, .capture (byteLength read) false, offset + 1⟩ := by
  rw [scan_append, hread, byteLength_of_scan hread]
  rfl

theorem scan_slot
    (hread : scan read = .text gs offset) :
    scan (read ++ ['%']) = ⟨gs, .slot (byteLength read), offset + 1⟩ := by
  rw [scan_append, hread, byteLength_of_scan hread]
  rfl

/-- A fault that starts where a text was scanned to covers what comes next. -/
theorem Blamed.covers
    {f : Fault} {snippet after : List Char} {code : Code}
    (h : Blamed read snippet after code)
    (hread : scan read = .text gs offset)
    (hcode : f.explain.code = code)
    (hstart : f.start = offset)
    (hstop : f.stop = offset + byteLength snippet) :
    ∃ before snippet' after',
      f.Covers (read ++ (snippet ++ after)) before snippet' after' := by
  have hoffset := byteLength_of_scan hread
  refine ⟨read, snippet, after, (List.append_assoc _ _ _).symm, ?_, ?_, hcode ▸ h⟩
  · rw [hstart, hoffset]
  · rw [hstop, Text.byteLength_append, hoffset]

/-- A group that is open at the end of a text is opened in it. -/
theorem covers_unclosed
    (g : OpenGroup)
    (hread : scan read = .text (g :: gs) offset) :
    ∃ before snippet after, g.unclosed.Covers read before snippet after := by
  have hhead : (scan read).openings.head? = some (g.kind.opener, g.offset) := by
    rw [hread]
    rfl
  obtain ⟨before, after, heq, hoffset⟩ :=
    exists_append_of_mem_openings (List.mem_of_head? hhead)
  rw [List.append_cons] at heq
  refine ⟨before, [g.kind.opener], after, heq, hoffset, ?_, .unclosed ?_⟩
  · simp [OpenGroup.unclosed, Fault.stop, hoffset]
  · rw [← heq, hhead, hoffset]

mutual

/-- Behind a text that leaves groups open, a fault covers a part of the whole. -/
theorem SequenceFault.covers [Regex.Dialect] :
    {g : Option OpenGroup} → {offset : Nat} → {s : List Char} → {f : Fault} →
      SequenceFault g offset s f → {read : List Char} → {gs : List OpenGroup} →
        gs.head? = g → scan read = .text gs offset →
          ∃ before snippet after, f.Covers (read ++ s) before snippet after
  | _, _, _, _, .unclosed g offset, read, [], hg, _ =>
      nomatch hg
  | _, _, _, _, .unclosed g offset, read, o :: gs, hg, hread => by
      cases hg
      rw [List.append_nil]
      exact covers_unclosed g hread
  | _, _, _, _, .first goes_on first, _, gs, hg, hread =>
      first.covers (hg ▸ goes_on) hread
  | _, offset, _, _, @SequenceFault.later _ _ _ s ss _ _ first others,
      read, gs, hg, hread => by
      have hnext : scan (read ++ s) = .text gs (offset + byteLength s) := by
        rw [scan_append, hread, first.run_text]
      rw [← List.append_assoc]
      exact others.covers hg hnext

theorem PieceFault.covers [Regex.Dialect] :
    {offset : Nat} → {c : Char} → {tail : List Char} → {f : Fault} →
      PieceFault offset c tail f → {read : List Char} → {gs : List OpenGroup} →
        stops gs.head? c = false → scan read = .text gs offset →
          ∃ before snippet after, f.Covers (read ++ c :: tail) before snippet after
  | _, c, _, _, .unmatched closes offset tail, read, gs, hstops, hread => by
      have hsize : c.utf8Size = 1 := by
        rcases closes with rfl | rfl | rfl <;> rfl
      have hblamed : Blamed read [c] tail .unmatchedCloser := by
        refine .unmatched closes ?_ ?_ tail <;> rw [hread]
        · rfl
        · exact hstops
      exact hblamed.covers hread rfl rfl (by simp [Fault.stop, hsize])
  | _, _, _, _, .danglingEscape offset, read, gs, _, hread => by
      have hblamed : Blamed read ['\\'] [] .danglingEscape :=
        .danglingEscape (by rw [hread]; rfl)
      exact hblamed.covers hread rfl rfl rfl
  | offset, _, s, _, .group k content, read, gs, _, hread => by
      have hnext :
          scan (read ++ [k.opener]) = .text (⟨k, offset⟩ :: gs) (offset + 1) := by
        rw [scan_append, hread]
        exact Scan.step_opener k gs offset
      rw [List.append_cons]
      exact content.covers rfl hnext
  | _, _, s, _, .unclosedCapture unclosed offset, read, gs, _, hread => by
      have hopen :
          (scan (read ++ ['<'] ++ s)).openings.head? = some ('<', byteLength read) := by
        rw [scan_append, scan_capture hread,
          Scan.run_capture (guarded_of_splitCapture? unclosed)]
        rfl
      exact (Blamed.unclosed hopen).covers hread rfl rfl rfl
  | _, _, _, _, @PieceFault.badCapture _ body _ closed rejected offset tail,
      read, gs, _, hread => by
      have hopened :
          (scan (read ++ ['<'])).openings.head? = some ('<', byteLength read) := by
        rw [scan_capture hread]
        rfl
      have hclosed : (escapeCapture body).getLast? ≠ some '\\' := by
        rwa [getLast?_escapeCapture]
      have hblamed := Blamed.capture hopened (guarded_escapeCapture body) hclosed tail
      rw [List.append_cons (escapeCapture body), ← List.cons_append]
      refine hblamed.covers hread rfl rfl ?_
      rw [byteLength_delimited rfl rfl, Text.byteLength_nil]
      simp only [Fault.stop, captureLength]
      omega
  | _, _, s, _, .unclosedSlot unclosed offset, read, gs, _, hread => by
      have hopen :
          (scan (read ++ ['%'] ++ s)).openings.head? = some ('%', byteLength read) := by
        rw [scan_append, scan_slot hread,
          Scan.run_slot (not_mem_of_splitAt?_eq_none unclosed)]
        rfl
      exact (Blamed.unclosed hopen).covers hread rfl rfl rfl
  | _, _, _, _, @PieceFault.badSlot _ body fault closed rejected offset tail,
      read, gs, _, hread => by
      have hopened :
          (scan (read ++ ['%'])).openings.head? = some ('%', byteLength read) := by
        rw [scan_slot hread]
        rfl
      have hblamed := Blamed.slot hopened closed tail
        (fault.code_toFault offset (offset + 1 + byteLength body + 1))
      rw [List.append_cons body, ← List.cons_append]
      refine hblamed.covers hread rfl (fault.start_toFault _ _) ?_
      rw [byteLength_delimited rfl rfl, Text.byteLength_nil, fault.stop_toFault]
      omega

theorem AlternativesFault.covers [Regex.Dialect] :
    {g : OpenGroup} → {offset : Nat} → {s : List Char} → {f : Fault} →
      AlternativesFault g offset s f → {read : List Char} → {gs : List OpenGroup} →
        gs.head? = some g → scan read = .text gs offset →
          ∃ before snippet after, f.Covers (read ++ s) before snippet after
  | _, _, _, _, .unmarked _ content, _, _, hg, hread =>
      content.covers hg hread
  | _, offset, _, _,
      @AlternativesFault.marked _ _ _ digits s _ _ digits_isDigit _ content,
      read, gs, hg, hread => by
      have hnext : scan (read ++ (digits ++ [markSeparator])) =
          .text gs (offset + byteLength digits + markSeparator.utf8Size) := by
        rw [scan_append, hread]
        exact run_mark digits_isDigit gs offset
      rw [List.append_cons digits, ← List.append_assoc]
      exact content.covers hg hnext
  | _, offset, _, _, @AlternativesFault.later _ _ _ s ss _ _ first others,
      read, gs, hg, hread => by
      have hnext :
          scan (read ++ (s ++ ['|'])) = .text gs (offset + byteLength s + 1) := by
        rw [scan_append, hread, Scan.run_append, first.run_text]
        exact Scan.step_bar gs _
      rw [List.append_cons s, ← List.append_assoc]
      exact others.covers hg hnext

end

/-- A fault of a pattern covers a part of it. -/
theorem exists_covers_of_parse
    [Regex.Dialect]
    {cs : List Char} {f : Fault}
    (h : parse cs = .error f) :
    ∃ before snippet after, f.Covers cs before snippet after := by
  exact @SequenceFault.covers _ none 0 cs f (parse_error_iff.1 h) [] [] rfl rfl

end Faults

/-- The only label of a fault stands under what the fault covers. -/
theorem Fault.exists_labels_explain
    (f : Fault) :
    ∃ text, f.explain.labels = [⟨Span.ofRange f.start f.stop, text, true⟩] := by
  cases f <;> exact ⟨_, rfl⟩

/-- A pattern that cannot be read is quoted whole, with one label, at fault, under a part
of the pattern that is to blame in the way of the code. -/
theorem compile_error_blamed
    [Regex.Dialect]
    {source : String} {d : Diagnostic}
    (h : compile source = .error d)
    (hsize : byteLength source.toList < UInt32.size) :
    d.source = some source ∧
      ∃ before snippet after text,
        source.toList = before ++ snippet ++ after ∧
          d.labels =
            [⟨⟨byteLength before, byteLength (before ++ snippet)⟩, text, true⟩] ∧
          d.primarySnippet = some (String.ofList snippet) ∧
          Blamed before snippet after d.code := by
  obtain ⟨f, hf, rfl⟩ := compile_error_iff.1 h
  obtain ⟨before, snippet, after, hcovers⟩ := exists_covers_of_parse hf
  obtain ⟨text, htext⟩ := f.exists_labels_explain
  have hlabels : (f.diagnostic source).labels =
      [⟨⟨byteLength before, byteLength (before ++ snippet)⟩, text, true⟩] := by
    refine htext.trans ?_
    rw [hcovers.start_eq, hcovers.stop_eq]
    rw [hcovers.source_eq, Text.byteLength_append] at hsize
    have hstop : byteLength (before ++ snippet) ≤ maxOffset := by
      unfold maxOffset
      omega
    have hstart : byteLength before ≤ maxOffset := by
      rw [Text.byteLength_append] at hstop
      omega
    rw [Span.ofRange, Nat.min_eq_left hstart, Nat.min_eq_left hstop]
  exact ⟨rfl, before, snippet, after, text, hcovers.source_eq, hlabels,
    (Diagnostic.primarySnippet_eq_some_iff rfl hlabels).2
      ⟨_, _, hcovers.source_eq, rfl, rfl⟩,
    hcovers.blamed⟩

/-- The choice in a marked alternative of an optional group, behind characters of several
bytes, is what is open innermost. -/
theorem compile_error_blamed_nested :
    ∃ d, compile "é[1¦(a|ü" = .error d ∧ d.source = some "é[1¦(a|ü" ∧
      d.primarySnippet = some "(" ∧ ∃ before snippet after,
        "é[1¦(a|ü".toList = before ++ snippet ++ after ∧
          Blamed before snippet after d.code := by
  have hread : compile "é[1¦(a|ü" =
      .error ⟨.unclosedGroup, .error, "unclosed `(`", some "é[1¦(a|ü",
        [⟨⟨6, 7⟩, "expected a matching `)`", true⟩], []⟩ := by
    cbv
  obtain ⟨hsource, before, snippet, after, -, heq, -, -, hblamed⟩ :=
    compile_error_blamed hread (by decide)
  exact ⟨_, hread, hsource, by decide, before, snippet, after, heq, hblamed⟩

end Pattern
end TriggerScript
