import TriggerScript.Proofs.Pattern.Culprit
import TriggerScript.Regex.Acceptance

/-!
# Underlined patterns

The explanation of a fault names nothing but characters of the pattern and delimiters, so
that for a pattern in one line its headline is one line, too. What is at fault is
underlined exactly if the pattern has no characters of several bytes up to there.
-/

namespace TriggerScript
namespace Pattern

open Report
open Text (byteLength)

def delimiters : List Char :=
  ['[', ']', '(', ')', '<', '>', '%', '|']

/-- The characters that the explanation of a fault names. -/
def Fault.named : Fault → List Char
  | .unclosed opener closer _ => [opener, closer]
  | .unmatched c _ => [c]
  | .badCapture body _ _ _ => body.toList
  | .badTypeName c name _ _ => c :: name.toList
  | _ => []

section Named

variable {c : Char} {start stop : Nat} {fault : SlotFault}

theorem mem_of_mem_trim
    {cs : List Char}
    (h : c ∈ Text.trim cs) :
    c ∈ cs := by
  rw [Text.trim, Text.trimRight, List.mem_reverse] at h
  exact List.dropWhile_subset _ (List.mem_reverse.1 (List.dropWhile_subset _ h))

theorem mem_of_readModifiers
    {m n : Modifiers} {cs rest : List Char}
    (h : readModifiers m cs = .ok (n, rest))
    (hc : c ∈ rest) :
    c ∈ cs := by
  fun_induction readModifiers m cs with
  | case1 m cs ih | case2 m cs ih | case4 m cs _ ih | case6 m cs _ ih =>
      exact List.mem_cons_of_mem _ (ih h)
  | case3 | case5 =>
      cases h
  | case7 m cs =>
      cases h
      exact hc

theorem readModifiers_error
    {m : Modifiers} {cs : List Char}
    (h : readModifiers m cs = .error fault) :
    fault = .conflictingModifiers := by
  fun_induction readModifiers m cs with
  | case1 m cs ih | case2 m cs ih | case4 m cs _ ih | case6 m cs _ ih =>
      exact ih h
  | case3 | case5 =>
      cases h
      rfl
  | case7 m cs =>
      cases h

theorem mem_of_readName
    {cs : List Char}
    (h : readName cs = .error fault)
    (hc : c ∈ (fault.toFault start stop).named) :
    c ∈ cs := by
  unfold readName at h
  dsimp only at h
  split at h
  · cases h
    cases hc
  · split at h
    · rename_i d hd
      cases h
      rw [SlotFault.toFault, Fault.named, String.toList_ofList] at hc
      rcases List.mem_cons.1 hc with rfl | hname
      · exact mem_of_mem_trim (List.mem_of_find?_eq_some hd)
      · exact mem_of_mem_trim hname
    · cases h

theorem mem_of_readNames
    {parts : List (List Char)}
    (h : readNames parts = .error fault)
    (hc : c ∈ (fault.toFault start stop).named) :
    ∃ part ∈ parts, c ∈ part := by
  induction parts with
  | nil =>
      cases h
  | cons part parts ih =>
      unfold readNames at h
      split at h
      · rename_i hname
        cases h
        exact ⟨part, List.mem_cons_self, mem_of_readName hname hc⟩
      · split at h
        · rename_i hnames
          cases h
          obtain ⟨other, hother, hmem⟩ := ih hnames
          exact ⟨other, List.mem_cons_of_mem _ hother, hmem⟩
        · cases h

/-- What is wrong with a slot names nothing but characters of its body. -/
theorem mem_of_readSlotBody
    {body : List Char}
    (h : readSlotBody body = .error fault)
    (hc : c ∈ (fault.toFault start stop).named) :
    c ∈ body := by
  unfold readSlotBody at h
  split at h
  · rename_i hmodifiers
    cases h
    rw [readModifiers_error hmodifiers] at hc
    cases hc
  · rename_i m rest hmodifiers
    split at h
    · rename_i hnames
      cases h
      obtain ⟨part, hpart, hmem⟩ := mem_of_readNames hnames hc
      exact mem_of_mem_trim
        (mem_of_readModifiers hmodifiers (Text.mem_of_mem_splitOn hpart hmem))
    · cases h

theorem mem_escapeCapture
    {body : List Char}
    (h : c ∈ body) :
    c ∈ escapeCapture body := by
  refine List.mem_flatMap.2 ⟨c, h, ?_⟩
  split <;> simp

theorem mem_delimiters_of_unclosed
    {k : GroupKind} {offset : Nat}
    (h : c ∈ (OpenGroup.unclosed ⟨k, offset⟩).named) :
    c ∈ delimiters := by
  cases k <;> simp [OpenGroup.unclosed, Fault.named, GroupKind.opener,
    GroupKind.closer] at h <;>
    rcases h with rfl | rfl <;> decide

mutual

/-- The explanation of a fault names nothing but
delimiters and what stands in the text. -/
theorem SequenceFault.mem_of_named [Regex.Dialect] :
    {g : Option OpenGroup} → {offset : Nat} → {s : List Char} → {f : Fault} →
      SequenceFault g offset s f → c ∈ f.named → c ∈ delimiters ∨ c ∈ s
  | _, _, _, _, .unclosed _ _, hc =>
      .inl (mem_delimiters_of_unclosed hc)
  | _, _, _, _, .first _ first, hc =>
      first.mem_of_named hc
  | _, _, _, _, .later _ others, hc =>
      (others.mem_of_named hc).imp_right (List.mem_append_right _)

theorem PieceFault.mem_of_named [Regex.Dialect] :
    {offset : Nat} → {d : Char} → {tail : List Char} → {f : Fault} →
      PieceFault offset d tail f → c ∈ f.named → c ∈ delimiters ∨ c ∈ d :: tail
  | _, _, _, _, .unmatched _ _ _, hc =>
      .inr (List.mem_singleton.1 hc ▸ List.mem_cons_self)
  | _, _, _, _, .danglingEscape _, hc =>
      nomatch hc
  | _, _, _, _, .group _ content, hc =>
      (content.mem_of_named hc).imp_right (List.mem_cons_of_mem _)
  | _, _, _, _, .unclosedCapture _ _, hc => by
      simp [Fault.named] at hc
      rcases hc with rfl | rfl
      · exact .inl (by decide)
      · exact .inl (by decide)
  | _, _, _, _, .badCapture _ _ _ tail, hc => by
      rw [Fault.named, String.toList_ofList] at hc
      exact .inr (List.mem_cons_of_mem _ (List.mem_append_left _ (mem_escapeCapture hc)))
  | _, _, _, _, .unclosedSlot _ _, hc => by
      simp [Fault.named] at hc
      exact .inl (hc ▸ by decide)
  | _, _, _, _, .badSlot _ rejected _ _, hc =>
      .inr (List.mem_cons_of_mem _
        (List.mem_append_left _ (mem_of_readSlotBody rejected hc)))

theorem AlternativesFault.mem_of_named [Regex.Dialect] :
    {g : OpenGroup} → {offset : Nat} → {s : List Char} → {f : Fault} →
      AlternativesFault g offset s f → c ∈ f.named → c ∈ delimiters ∨ c ∈ s
  | _, _, _, _, .unmarked _ content, hc =>
      content.mem_of_named hc
  | _, _, _, _, .marked _ _ content, hc =>
      (content.mem_of_named hc).imp_right fun h =>
        List.mem_append_right _ (List.mem_cons_of_mem _ h)
  | _, _, _, _, .later _ others, hc =>
      (others.mem_of_named hc).imp_right fun h =>
        List.mem_append_right _ (List.mem_cons_of_mem _ h)

end

end Named

/-- The headline and the remark of a fault have no
line breaks that the fault does not name. -/
theorem Fault.one_line
    {f : Fault}
    (h : '\n' ∉ f.named) :
    '\n' ∉ f.explain.headline.toList ∧ ∀ l ∈ f.explain.labels, '\n' ∉ l.text.toList := by
  cases f
  case unmatched c offset =>
    have hc : '\n' ≠ c := fun heq => h (heq ▸ List.mem_cons_self)
    by_cases hbar : c = '|' <;>
      simp [explain, Diagnostic.headline, Diagnostic.error, Diagnostic.withMessage,
        Diagnostic.withLabel, hbar, hc]
  all_goals
    simp [named] at h
    simp [explain, Diagnostic.headline, Diagnostic.error, Diagnostic.withMessage,
      Diagnostic.withLabel, Diagnostic.withNote, h]

/-- A pattern in one line that cannot be read is underlined where it is at fault exactly
if the primary span covers characters up to whose end none takes several bytes. -/
theorem compile_error_underlines_iff
    [Regex.Dialect]
    {source : String} {d : Diagnostic}
    (h : compile source = .error d)
    (hline : '\n' ∉ source.toList) :
    d.Underlines ↔ ∃ before snippet after,
      source.toList = before ++ snippet ++ after ∧
        d.primarySpan = some ⟨byteLength before, byteLength (before ++ snippet)⟩ ∧
        snippet ≠ [] ∧ ∀ c ∈ before ++ snippet, c.utf8Size = 1 := by
  obtain ⟨f, hf, rfl⟩ := compile_error_iff.1 h
  obtain ⟨text, hlabels⟩ := f.exists_labels_explain
  have hnamed : '\n' ∉ f.named := by
    intro hmem
    rcases (parse_error_iff.1 hf).mem_of_named hmem with hdelimiter | hsource
    · revert hdelimiter
      decide
    · exact hline hsource
  obtain ⟨hheadline, hremark⟩ := Fault.one_line hnamed
  exact Diagnostic.underlines_iff_of_label rfl hlabels hheadline hline
    (hremark _ (hlabels ▸ List.mem_singleton_self _))

/-- Behind what is underlined there may be characters of several bytes. -/
theorem compile_error_underlines_iff_behind :
    ∃ d, compile "a[é" = .error d ∧ d.Underlines := by
  have hread : compile "a[é" =
      .error ⟨.unclosedGroup, .error, "unclosed `[`", some "a[é",
        [⟨⟨1, 2⟩, "expected a matching `]`", true⟩], []⟩ := by
    cbv
  refine ⟨_, hread, (compile_error_underlines_iff hread (by decide)).2 ?_⟩
  exact ⟨['a'], ['['], ['é'], rfl, rfl, List.cons_ne_nil _ _,
    List.forall_mem_cons.2 ⟨rfl, List.forall_mem_singleton.2 rfl⟩⟩

/-- Behind a character of two bytes the caret stands one column too far to the right. -/
theorem not_forall_compile_error_underlines :
    ¬ ∀ (source : String) (d : Diagnostic),
      compile source = .error d → '\n' ∉ source.toList → d.Underlines := by
  intro h
  have hread : compile "é]" =
      .error ⟨.unmatchedCloser, .error, "unmatched closing `]`", some "é]",
        [⟨⟨2, 3⟩, "no group to close here", true⟩], []⟩ := by
    cbv
  have hchars : "é]".toList = ['é', ']'] := by decide
  have hunderlines := h _ _ hread (by decide)
  rw [Diagnostic.underlines_iff_of_label rfl rfl (by decide) (by decide) (by decide)]
    at hunderlines
  obtain ⟨before, snippet, after, heq, -, hne, hbytes⟩ := hunderlines
  cases hcovered : before ++ snippet with
  | nil =>
      exact hne (List.append_eq_nil_iff.1 hcovered).2
  | cons c cs =>
      have hc := hbytes c (hcovered ▸ List.mem_cons_self)
      rw [hcovered, hchars] at heq
      obtain ⟨rfl, -⟩ := List.cons.inj heq
      revert hc
      decide

end Pattern
end TriggerScript
