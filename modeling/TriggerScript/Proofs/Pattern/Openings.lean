import Mathlib.Data.List.Induction
import TriggerScript.Proofs.Pattern.Derivation

/-!
# What is open in a pattern

A scan of a text from left to right that does not build anything: it only keeps what has
been opened and not closed yet. Groups nest, while nothing is opened in a capture or a
slot. Whatever the grammar derives leaves everything open that was open before, and opens
nothing for good.
-/

namespace TriggerScript
namespace Pattern

open Pattern.Derivation
  (Guarded guarded_cons_iff guarded_escaped_iff guarded_escapeCapture
  getLast?_escapeCapture)

/-- What the next character of a text is part of. -/
inductive Mode where
  | text
  /-- The character behind an escape character. -/
  | escape
  /-- A capture that was opened at an offset, and
  whether the last character was a backslash. -/
  | capture (start : Nat) (escaped : Bool)
  /-- A slot that was opened at an offset. -/
  | slot (start : Nat)
deriving DecidableEq

/-- The opener of the capture or the slot that a
character is part of, with its offset. -/
def Mode.opening? : Mode → Option (Char × Nat)
  | .text => none
  | .escape => none
  | .capture start _ => some ('<', start)
  | .slot start => some ('%', start)

/-- How far a text was scanned, and what is open there. -/
structure Scan where
  /-- The open groups, the innermost first. -/
  groups : List OpenGroup
  mode : Mode
  offset : Nat
deriving DecidableEq

section Delimiters

theorem guarded_of_append
    {cs ds : List Char}
    (h : Guarded (cs ++ ds)) :
    Guarded cs := by
  rintro before after rfl
  exact h before (after ++ ds) (by simp)

/-- Where a capture has no end, each closing delimiter comes right behind a backslash. -/
theorem guarded_of_splitCapture?
    {cs : List Char}
    (h : splitCapture? cs = none) :
    Guarded cs := by
  fun_induction splitCapture? cs with
  | case1 =>
      exact guarded_escapeCapture []
  | case2 cs =>
      cases h
  | case3 cs ih =>
      exact guarded_escaped_iff.2 (ih (Option.map_eq_none_iff.1 h))
  | case4 c cs hc hescape ih =>
      exact (guarded_cons_iff hescape).2 ⟨hc, ih (Option.map_eq_none_iff.1 h)⟩

theorem not_mem_of_splitAt?_eq_none
    {mark : Char} {cs : List Char}
    (h : splitAt? mark cs = none) :
    mark ∉ cs := by
  intro hmem
  obtain ⟨before, after, rfl, hbefore⟩ := List.eq_append_cons_of_mem hmem
  rw [splitAt?_append hbefore] at h
  cases h

end Delimiters

namespace Scan

/-- The scan at an offset in a text, where groups are open. -/
def text
    (groups : List OpenGroup) (offset : Nat) : Scan :=
  ⟨groups, .text, offset⟩

/-- The groups that are open behind a character of a text. -/
def close
    (c : Char) : List OpenGroup → List OpenGroup
  | [] => []
  | g :: gs => if c = g.kind.closer then gs else g :: gs

/-- What is open behind a character of a text that is not escaped. -/
def stepText
    (groups : List OpenGroup) (offset : Nat) : Char → List OpenGroup × Mode
  | '\\' => (groups, .escape)
  | '<' => (groups, .capture offset false)
  | '%' => (groups, .slot offset)
  | '[' => (⟨.optional, offset⟩ :: groups, .text)
  | '(' => (⟨.choice, offset⟩ :: groups, .text)
  | c => (close c groups, .text)

/-- What is open behind a character. -/
def stepMode
    (s : Scan) (c : Char) : List OpenGroup × Mode :=
  match s.mode with
  | .text => stepText s.groups s.offset c
  | .escape => (s.groups, .text)
  | .capture start escaped =>
      (s.groups, if c = '>' ∧ escaped = false then .text else .capture start (c == '\\'))
  | .slot start => (s.groups, if c = '%' then .text else .slot start)

def step
    (s : Scan) (c : Char) : Scan :=
  ⟨(s.stepMode c).1, (s.stepMode c).2, s.offset + c.utf8Size⟩

def run
    (s : Scan) (cs : List Char) : Scan :=
  cs.foldl step s

/-- The openers of what is open, with their offsets, the innermost first. -/
def openings
    (s : Scan) : List (Char × Nat) :=
  s.mode.opening?.toList ++ s.groups.map fun g => (g.kind.opener, g.offset)

@[simp] theorem run_nil
    (s : Scan) :
    s.run [] = s := by
  rfl

@[simp] theorem run_cons
    (s : Scan) (c : Char) (cs : List Char) :
    s.run (c :: cs) = (s.step c).run cs := by
  rfl

@[simp] theorem run_append
    (s : Scan) (cs ds : List Char) :
    s.run (cs ++ ds) = (s.run cs).run ds := by
  simp [run]

theorem offset_run
    (s : Scan) (cs : List Char) :
    (s.run cs).offset = s.offset + Text.byteLength cs := by
  induction cs generalizing s with
  | nil =>
      rfl
  | cons c cs ih =>
      rw [run_cons, ih, Text.byteLength_cons, step, Nat.add_assoc]

/-- A character that is not special is nothing but text. -/
theorem step_plain
    {c : Char}
    (h : isSpecial c = false)
    (groups : List OpenGroup) (offset : Nat) :
    (text groups offset).step c = text groups (offset + c.utf8Size) := by
  have hclose : close c groups = groups := by
    cases groups with
    | nil =>
        rfl
    | cons g gs =>
        refine if_neg ?_
        rintro rfl
        rcases g.kind.closer_eq_or with hk | hk <;> rw [hk] at h <;> cases h
  have hstep : stepText groups offset c = (close c groups, .text) := by
    unfold stepText
    split <;> first | rfl | cases h
  simp [step, stepMode, text, hstep, hclose]

theorem run_plain
    {cs : List Char}
    (h : ∀ c ∈ cs, isSpecial c = false)
    (groups : List OpenGroup) (offset : Nat) :
    (text groups offset).run cs = text groups (offset + Text.byteLength cs) := by
  induction cs generalizing offset with
  | nil =>
      rfl
  | cons c cs ih =>
      rw [List.forall_mem_cons] at h
      rw [run_cons, step_plain h.1, ih h.2, Text.byteLength_cons, Nat.add_assoc]

theorem run_escaped
    (c : Char) (groups : List OpenGroup) (offset : Nat) :
    (text groups offset).run ['\\', c] =
      text groups (offset + Text.byteLength ['\\', c]) := by
  simp [step, stepMode, stepText, text, Nat.add_assoc]

theorem step_opener
    (k : GroupKind) (groups : List OpenGroup) (offset : Nat) :
    (text groups offset).step k.opener = text (⟨k, offset⟩ :: groups) (offset + 1) := by
  cases k <;> rfl

theorem step_bar
    (groups : List OpenGroup) (offset : Nat) :
    (text groups offset).step '|' = text groups (offset + 1) := by
  cases groups with
  | nil =>
      rfl
  | cons g gs =>
      rcases g with ⟨_ | _, _⟩ <;> rfl

theorem step_closer
    (g : OpenGroup) (groups : List OpenGroup) (offset : Nat) :
    (text (g :: groups) offset).step g.kind.closer = text groups (offset + 1) := by
  rcases g with ⟨_ | _, _⟩ <;> rfl

/-- A slot stays open in a text without its delimiter. -/
theorem run_slot
    {cs : List Char}
    (h : '%' ∉ cs)
    (groups : List OpenGroup) (start offset : Nat) :
    (Scan.mk groups (.slot start) offset).run cs =
      ⟨groups, .slot start, offset + Text.byteLength cs⟩ := by
  induction cs generalizing offset with
  | nil =>
      rfl
  | cons c cs ih =>
      rw [List.mem_cons, not_or] at h
      have hstep : (Scan.mk groups (.slot start) offset).step c =
          ⟨groups, .slot start, offset + c.utf8Size⟩ := by
        simp [step, stepMode, Ne.symm h.1]
      rw [run_cons, hstep, ih h.2, Text.byteLength_cons, Nat.add_assoc]

/-- A capture stays open in a text whose closing delimiters are escaped. -/
theorem run_capture
    {cs : List Char}
    (h : Guarded cs)
    (groups : List OpenGroup) (start offset : Nat) :
    (Scan.mk groups (.capture start false) offset).run cs =
      ⟨groups, .capture start (cs.getLast? == some '\\'),
        offset + Text.byteLength cs⟩ := by
  -- from the right, since the last character decides whether the next one is escaped
  induction cs using List.reverseRecOn with
  | nil =>
      rfl
  | append_singleton cs c ih =>
      have hescaped : c = '>' → cs.getLast? = some '\\' := by
        rintro rfl
        exact h cs [] rfl
      rw [run_append, ih (guarded_of_append h)]
      simpa [step, stepMode, Nat.add_assoc] using hescaped

theorem step_capture
    (groups : List OpenGroup) (offset : Nat) :
    (text groups offset).step '<' = ⟨groups, .capture offset false, offset + 1⟩ := by
  rfl

theorem step_slot
    (groups : List OpenGroup) (offset : Nat) :
    (text groups offset).step '%' = ⟨groups, .slot offset, offset + 1⟩ := by
  rfl

/-- A capture ends with a closing delimiter that is not escaped. -/
theorem run_capture_delimited
    {cs : List Char}
    (h : Guarded cs)
    (hlast : cs.getLast? ≠ some '\\')
    (groups : List OpenGroup) (offset : Nat) :
    (text groups offset).run ('<' :: (cs ++ ['>'])) =
      text groups (offset + Text.byteLength ('<' :: (cs ++ ['>']))) := by
  have hescaped : (cs.getLast? == some '\\') = false := by simpa using hlast
  have hsize : '>'.utf8Size = 1 := rfl
  rw [run_cons, step_capture, run_append, run_capture h, hescaped,
    byteLength_delimited rfl rfl]
  simp [step, stepMode, text, hsize]
  omega

theorem run_slot_delimited
    {cs : List Char}
    (h : '%' ∉ cs)
    (groups : List OpenGroup) (offset : Nat) :
    (text groups offset).run ('%' :: (cs ++ ['%'])) =
      text groups (offset + Text.byteLength ('%' :: (cs ++ ['%']))) := by
  have hsize : '%'.utf8Size = 1 := rfl
  rw [run_cons, step_slot, run_append, run_slot h, byteLength_delimited rfl rfl]
  simp [step, stepMode, text, hsize]
  omega

theorem close_subset
    (c : Char) (groups : List OpenGroup) :
    close c groups ⊆ groups := by
  cases groups with
  | nil =>
      exact List.Subset.refl _
  | cons g gs =>
      rw [close]
      split
      · exact List.subset_cons_self g gs
      · exact List.Subset.refl _

/-- A character opens nothing but what it is the opener of. -/
theorem openings_step_subset
    (s : Scan) (c : Char) :
    (s.step c).openings ⊆ (c, s.offset) :: s.openings := by
  rcases s with ⟨groups, _ | _ | ⟨start, escaped⟩ | start, offset⟩ <;>
    simp only [step, stepMode, openings]
  case text =>
    fun_cases stepText groups offset c with
    | case1 => exact List.subset_cons_self _ _
    | case6 =>
        exact List.subset_cons_of_subset _ (List.map_subset _ (close_subset c groups))
    | _ => exact List.Subset.refl _
  case escape =>
    exact List.subset_cons_self _ _
  case capture =>
    split
    · exact List.subset_cons_of_subset _ (List.subset_cons_self _ _)
    · exact List.subset_cons_self _ _
  case slot =>
    split
    · exact List.subset_cons_of_subset _ (List.subset_cons_self _ _)
    · exact List.subset_cons_self _ _

end Scan

/-- The scan of a text from its start. -/
def scan
    (cs : List Char) : Scan :=
  (Scan.text [] 0).run cs

theorem scan_append
    (cs ds : List Char) :
    scan (cs ++ ds) = (scan cs).run ds := by
  exact Scan.run_append _ cs ds

theorem offset_scan
    (cs : List Char) :
    (scan cs).offset = Text.byteLength cs := by
  rw [scan, Scan.offset_run]
  exact Nat.zero_add _

/-- What is open behind a text was opened in it, at the place that is kept with it. -/
theorem exists_append_of_mem_openings
    {cs : List Char} {opener : Char} {offset : Nat}
    (h : (opener, offset) ∈ (scan cs).openings) :
    ∃ before after, cs = before ++ opener :: after ∧
      offset = Text.byteLength before := by
  induction cs using List.reverseRecOn with
  | nil =>
      cases h
  | append_singleton cs c ih =>
      rw [scan_append] at h
      rcases List.mem_cons.1 (Scan.openings_step_subset _ c h) with heq | hcs
      · cases heq
        exact ⟨cs, [], rfl, offset_scan cs⟩
      · obtain ⟨before, after, rfl, hoffset⟩ := ih hcs
        exact ⟨before, after ++ [c], by simp, hoffset⟩

example : (scan ['é', '[', 'a', ']', '(', '<', '\\', '>', '[']).openings =
    [('<', 6), ('(', 5)] := by
  decide

section Grammar

open Scan

/-- A group, from its opener to its closer, leaves the groups around it open. -/
theorem run_group
    {k : GroupKind} {s : List Char} {groups : List OpenGroup} {offset : Nat}
    (hs : (text (⟨k, offset⟩ :: groups) (offset + 1)).run s =
      text (⟨k, offset⟩ :: groups) (offset + 1 + Text.byteLength s)) :
    (text groups offset).run (k.opener :: (s ++ [k.closer])) =
      text groups (offset + Text.byteLength (k.opener :: (s ++ [k.closer]))) := by
  have hlength : Text.byteLength (k.opener :: (s ++ [k.closer])) =
      Text.byteLength s + 2 := by
    rcases k with _ | _ <;> exact byteLength_delimited rfl rfl s []
  rw [run_cons, step_opener, run_append, hs, run_cons, run_nil, hlength]
  refine (step_closer ⟨k, offset⟩ groups _).trans ?_
  congr 1
  omega

theorem run_mark
    {digits : List Char}
    (h : ∀ c ∈ digits, c.isDigit)
    (groups : List OpenGroup) (offset : Nat) :
    (text groups offset).run (digits ++ [markSeparator]) =
      text groups (offset + Text.byteLength digits + markSeparator.utf8Size) := by
  rw [run_append, run_plain fun c hc => isSpecial_of_isDigit (h c hc)]
  exact step_plain rfl groups _

mutual

/-- Behind a sequence of pieces the same groups are open as in front of it. -/
theorem SequenceText.run_text [Regex.Dialect] :
    {s : List Char} → {ps : List Piece} → SequenceText s ps →
      (groups : List OpenGroup) → (offset : Nat) →
        (text groups offset).run s = text groups (offset + Text.byteLength s)
  | _, _, .nil, _, _ =>
      rfl
  | _, _, .cons first others, groups, offset => by
      rw [run_append, first.run_text, others.run_text,
        Text.byteLength_append, Nat.add_assoc]

theorem PieceText.run_text [Regex.Dialect] :
    {s : List Char} → {p : Piece} → PieceText s p →
      (groups : List OpenGroup) → (offset : Nat) →
        (text groups offset).run s = text groups (offset + Text.byteLength s)
  | _, _, .plain plain, groups, offset =>
      step_plain plain groups offset
  | _, _, .escaped c, groups, offset =>
      run_escaped c groups offset
  | _, _, .optional content, groups, offset =>
      run_group (k := .optional) (content.run_text _ _)
  | _, _, .choice content, groups, offset =>
      run_group (k := .choice) (content.run_text _ _)
  | _, _, @PieceText.capture _ body closed _, groups, offset => by
      refine run_capture_delimited (guarded_escapeCapture body) ?_ groups offset
      rwa [getLast?_escapeCapture]
  | _, _, .slot closed _, groups, offset =>
      run_slot_delimited closed groups offset

theorem AlternativeText.run_text [Regex.Dialect] :
    {s : List Char} → {a : Marked Tree} → AlternativeText s a →
      (groups : List OpenGroup) → (offset : Nat) →
        (text groups offset).run s = text groups (offset + Text.byteLength s)
  | _, _, .unmarked _ content, groups, offset =>
      content.run_text groups offset
  | _, _, @AlternativeText.marked _ digits s _ _ digits_isDigit _ content,
      groups, offset => by
      rw [List.append_cons, run_append, run_mark digits_isDigit, content.run_text]
      simp [Nat.add_assoc]

theorem AlternativesText.run_text [Regex.Dialect] :
    {s : List Char} → {as : List (Marked Tree)} → AlternativesText s as →
      (groups : List OpenGroup) → (offset : Nat) →
        (text groups offset).run s = text groups (offset + Text.byteLength s)
  | _, _, .single only, groups, offset =>
      only.run_text groups offset
  | _, _, .cons first others, groups, offset => by
      rw [run_append, first.run_text, run_cons, step_bar,
        others.run_text, byteLength_bar]
      simp [Nat.add_assoc]

end

end Grammar

end Pattern
end TriggerScript
