import TriggerScript.Proofs.Text.Offsets
import TriggerScript.Proofs.Text.Parts
import TriggerScript.Report.Diagnostic

/-!
# What a diagnostic underlines

A diagnostic is displayed in lines: its headline, the text that it is about, and below it
a line for each label. The marks of a label count bytes, where the columns of the line
above count characters, so they stand under the text that they are about only as long as
all its characters are single bytes.
-/

namespace TriggerScript
namespace Report

open Text (byteLength)

/-- The number of characters of a line in front of its first caret. -/
def caretColumn
    (line : List Char) : Nat :=
  (line.takeWhile (· ≠ '^')).length

/-- The number of carets in the first run of carets of a line. -/
def caretWidth
    (line : List Char) : Nat :=
  ((line.dropWhile (· ≠ '^')).takeWhile (· = '^')).length

namespace Diagnostic

/-- The line with the headline. -/
def firstLine
    (d : Diagnostic) : List Char :=
  d.severity.name.toList ++ "[".toList ++ d.code.name.toList ++
    "]: ".toList ++ d.headline.toList

/-- The lines in which the diagnostic is displayed. -/
def lines
    (d : Diagnostic) : List (List Char) :=
  Text.splitOn '\n' d.text.toList

/-- Whether the text at fault is underlined where the diagnostic is displayed: in the
third line, below the one that quotes the whole text, a run of carets starts in the
column of the first of its characters, and is as long as it has characters. -/
def Underlines
    (d : Diagnostic) : Prop :=
  ∃ headline before snippet after marks others,
    d.lines = headline ::
        ("  --> `".toList ++ before ++ snippet ++ after ++ "`".toList) ::
        marks :: others ∧
      d.primarySnippet = some (String.ofList snippet) ∧
      d.primarySpan.map Span.start = some (byteLength before) ∧
      caretColumn marks = ("  --> `".toList ++ before).length ∧
      caretWidth marks = snippet.length

end Diagnostic

section Lines

theorem head?_notes
    (notes : List String) :
    ∀ c ∈ (String.join (notes.map fun note => "\n  = note: " ++ note)).toList.head?,
      c = '\n' := by
  cases notes with
  | nil =>
      simp
  | cons note notes =>
      simp [String.toList_join]

theorem not_mem_name_severity
    (s : Severity) :
    '\n' ∉ s.name.toList := by
  cases s <;> decide

theorem not_mem_name_code
    (c : Code) :
    '\n' ∉ c.name.toList := by
  cases c <;> decide

/-- The lines of a diagnostic with one label, of which none contains a line break. -/
theorem Diagnostic.exists_lines
    {d : Diagnostic} {source : String} {l : Label}
    (hsource : d.source = some source)
    (hlabels : d.labels = [l])
    (hheadline : '\n' ∉ d.headline.toList)
    (hline : '\n' ∉ source.toList)
    (htext : '\n' ∉ l.text.toList) :
    ∃ others,
      d.lines = d.firstLine :: ("  --> `".toList ++ source.toList ++ "`".toList) ::
        ("       ".toList ++ l.underline.toList) :: others := by
  have hfirst : '\n' ∉ d.firstLine := by
    simp [firstLine, not_mem_name_severity, not_mem_name_code, hheadline]
  have hquoted : '\n' ∉ "  --> `".toList ++ source.toList ++ "`".toList := by
    simp [hline]
  have hmarks : '\n' ∉ "       ".toList ++ l.underline.toList := by
    cases hculprit : l.culprit <;> simp [Label.underline, hculprit, htext]
  obtain ⟨others, hothers⟩ := Text.exists_splitOn_append hmarks (head?_notes d.notes)
  refine ⟨others, ?_⟩
  rw [← hothers, ← Text.splitOn_append_cons hquoted, ← Text.splitOn_append_cons hfirst]
  simp [lines, Diagnostic.text, firstLine, quotation, hsource, hlabels, String.join]

/-- The line of a label at fault: blanks, a caret for each
byte of its range, and at least one, and then its remark. -/
theorem toList_underline
    (span : Span) (text : String) :
    "       ".toList ++ (Label.mk span text true).underline.toList =
      List.replicate (7 + span.start) ' ' ++
        (List.replicate (max span.length 1) '^' ++ ' ' :: text.toList) := by
  have hmargin : "       ".toList = List.replicate 7 ' ' := by decide
  simp [Label.underline, hmargin, ← List.replicate_append_replicate]

theorem caretColumn_underline
    (span : Span) (text : String) :
    caretColumn ("       ".toList ++ (Label.mk span text true).underline.toList) =
      7 + span.start := by
  obtain ⟨n, hn⟩ : ∃ n, max span.length 1 = n + 1 := Nat.exists_eq_add_one.2 (by omega)
  rw [toList_underline, caretColumn, hn, List.replicate_succ, List.cons_append,
    List.takeWhile_append_of_pos (by simp), List.takeWhile_cons_of_neg (by simp)]
  simp

theorem caretWidth_underline
    (span : Span) (text : String) :
    caretWidth ("       ".toList ++ (Label.mk span text true).underline.toList) =
      max span.length 1 := by
  obtain ⟨n, hn⟩ : ∃ n, max span.length 1 = n + 1 := Nat.exists_eq_add_one.2 (by omega)
  have hdrop : (List.replicate (7 + span.start) ' ' ++
      (List.replicate (n + 1) '^' ++ ' ' :: text.toList)).dropWhile (· ≠ '^') =
        List.replicate (n + 1) '^' ++ ' ' :: text.toList := by
    rw [List.dropWhile_append_of_pos (by simp), List.replicate_succ, List.cons_append,
      List.dropWhile_cons_of_neg (by simp)]
  rw [toList_underline, caretWidth, hn, hdrop, List.takeWhile_append_of_pos (by simp),
    List.takeWhile_cons_of_neg (by simp)]
  simp

end Lines

section Underlines

variable {d : Diagnostic} {source text : String} {span : Span}

theorem Diagnostic.primarySpan_of_label
    (hlabels : d.labels = [⟨span, text, true⟩]) :
    d.primarySpan = some span := by
  rw [primarySpan, hlabels]
  rfl

/-- What is quoted as being at fault are the characters that the span stands for. -/
theorem Diagnostic.primarySnippet_eq_some_iff
    (hsource : d.source = some source)
    (hlabels : d.labels = [⟨span, text, true⟩])
    {snippet : List Char} :
    d.primarySnippet = some (String.ofList snippet) ↔
      ∃ before after, source.toList = before ++ snippet ++ after ∧
        byteLength before = span.start ∧
        byteLength (before ++ snippet) = span.stop := by
  rw [primarySnippet, primarySpan_of_label hlabels, hsource,
    ← Text.sliceBytes?_eq_some_iff]
  simp [Option.map_eq_some_iff, String.ofList_inj]

/-- Blanks and carets for bytes are as many as the characters
above them exactly if each of these takes a single byte. -/
theorem marks_fit_iff
    {before snippet : List Char} :
    (byteLength before = before.length ∧ max (byteLength snippet) 1 = snippet.length) ↔
      snippet ≠ [] ∧ ∀ c ∈ before ++ snippet, c.utf8Size = 1 := by
  have hbefore := Text.length_le_byteLength before
  have hsnippet := Text.length_le_byteLength snippet
  rw [← Text.byteLength_eq_length_iff, Text.byteLength_append, List.length_append,
    ← List.length_pos_iff]
  omega

/-- A label at fault underlines its range exactly if
no character up to its end takes several bytes. -/
theorem Diagnostic.underlines_iff_of_label
    (hsource : d.source = some source)
    (hlabels : d.labels = [⟨span, text, true⟩])
    (hheadline : '\n' ∉ d.headline.toList)
    (hline : '\n' ∉ source.toList)
    (htext : '\n' ∉ text.toList) :
    d.Underlines ↔ ∃ before snippet after,
      source.toList = before ++ snippet ++ after ∧
        d.primarySpan = some ⟨byteLength before, byteLength (before ++ snippet)⟩ ∧
        snippet ≠ [] ∧ ∀ c ∈ before ++ snippet, c.utf8Size = 1 := by
  have hmargin : "  --> `".toList.length = 7 := by decide
  have hspan := primarySpan_of_label hlabels
  obtain ⟨others, hlines⟩ := exists_lines hsource hlabels hheadline hline htext
  constructor
  · rintro ⟨headline, before, snippet, after, marks, others', hlines',
      hsnippet, hstart, hcolumn, hwidth⟩
    rw [hlines] at hlines'
    simp only [List.cons.injEq] at hlines'
    obtain ⟨-, hquoted, rfl, -⟩ := hlines'
    have heq : source.toList = before ++ snippet ++ after := by
      have happend :
          source.toList ++ "`".toList = before ++ snippet ++ after ++ "`".toList := by
        simpa using hquoted
      exact List.append_cancel_right happend
    obtain ⟨before', after', -, hbefore', hstop⟩ :=
      (primarySnippet_eq_some_iff hsource hlabels).1 hsnippet
    rw [hspan] at hstart
    -- the snippet may stand in the text more than once, but the span tells where it is
    -- meant
    obtain rfl : span = ⟨byteLength before, byteLength (before ++ snippet)⟩ := by
      rcases span with ⟨start, stop⟩
      obtain rfl : start = byteLength before := Option.some.inj hstart
      obtain rfl : byteLength (before' ++ snippet) = stop := hstop
      rw [Text.byteLength_append, Text.byteLength_append, hbefore']
    rw [caretColumn_underline, List.length_append, hmargin] at hcolumn
    rw [caretWidth_underline, Span.length, Text.byteLength_append,
      Nat.add_sub_cancel_left] at hwidth
    exact ⟨before, snippet, after, heq, hspan,
      marks_fit_iff.1 ⟨Nat.add_left_cancel hcolumn, hwidth⟩⟩
  · rintro ⟨before, snippet, after, heq, hprimary, hfit⟩
    obtain ⟨hbefore, hsnippet⟩ := marks_fit_iff.2 hfit
    rw [hspan] at hprimary
    cases hprimary
    simp only [heq, ← List.append_assoc] at hlines
    refine ⟨_, before, snippet, after, _, others, hlines, ?_, ?_, ?_, ?_⟩
    · exact (primarySnippet_eq_some_iff hsource hlabels).2 ⟨before, after, heq, rfl, rfl⟩
    · rw [hspan]
      rfl
    · rw [caretColumn_underline, List.length_append, hmargin, hbefore]
    · rw [caretWidth_underline, Span.length, Text.byteLength_append,
        Nat.add_sub_cancel_left, hsnippet]

end Underlines

end Report
end TriggerScript
