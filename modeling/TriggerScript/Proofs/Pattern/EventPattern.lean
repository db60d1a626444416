import TriggerScript.Proofs.Pattern.Inspection
import TriggerScript.Proofs.Pattern.Phrasing
import TriggerScript.Regex.Acceptance

/-!
# Patterns of events

The pattern of an event is its text with an optional "on" in front. The pattern can be
read exactly if the text can, and it has the same slots. The optional group and the blank
behind it only make the leading run longer, so that the pattern has the rank of the text
if the text has one.
-/

namespace TriggerScript
namespace Pattern

namespace Tree

/-- What stands in front of the text of an event. -/
def onPrefix : Tree :=
  .compound [.optional (.text "on"), .text " "]

/-- Whether a text is blank does not change with a blank in front. -/
theorem isBlankText_append_blank
    (s : String) :
    isBlankText (.text (" " ++ s)) = isBlankText (.text s) := by
  have hblank : Text.isBlank ' ' = true := by
    decide
  simp [isBlankText, String.toList_append, hblank]

/-- A run goes on through a blank in front of it,
also where the blank becomes part of a text. -/
theorem rankOfRun?_joinParts_blank
    (us : List Tree) :
    rankOfRun? (joinParts [.text " "] us) = rankOfRun? us := by
  have hblank : isBlankText (.text " ") = true := by
    decide
  cases us with
  | nil =>
      simp [joinParts, rankOfRun?, hblank]
  | cons u us =>
      cases u with
      | text s =>
          simp [joinParts, rankOfRun?, isBlankText_append_blank, rank?]
      | _ =>
          simp [joinParts, rankOfRun?, hblank]

theorem any_isCapture_joinParts_blank
    (us : List Tree) :
    (joinParts [.text " "] us).any isCapture = us.any isCapture := by
  cases us with
  | nil =>
      rfl
  | cons u us =>
      cases u <;> simp [joinParts, isCapture]

/-- The optional "on" leaves the rank of a compound as it is. -/
theorem rank?_append_onPrefix
    (t : Tree) :
    (onPrefix.append t).rank? = (compound t.parts).rank? := by
  have happend : onPrefix.append t =
      .compound (.optional (.text "on") :: joinParts [.text " "] t.parts) := by
    rw [append]
    cases t.parts with
    | nil =>
        rfl
    | cons u us =>
        cases u <;> rfl
  rw [happend, rank?, rank?, rankOfRun?_optional,
    rankOfRun?_joinParts_blank, List.any_cons, any_isCapture_joinParts_blank]
  cases h : rankOfRun? t.parts with
  | none =>
      rfl
  | some n =>
      have hle : n ≤ textRank := le_textRank_of_rankOfRun? _ h
      simp [rank?, isCapture, Nat.min_eq_right hle]

/-- A compound of the parts of a tree has the rank of the
tree, or if it is an optional group that of its content. -/
theorem rank?_compound_parts
    (t : Tree) :
    (compound t.parts).rank? = t.content.rank? := by
  cases t with
  | text s =>
      rw [parts]
      split <;> simp [content, rank?, rankOfRun?, isCapture]
  | optional inner =>
      have hrun := lowestRank?_singleton inner
      simp [parts, content, rank?, rankOfRun?_eq, leadingRun,
        continuesRun, isCapture, hrun]
      cases inner.rank? <;> rfl
  | capture body =>
      simp [parts, content, rank?, rankOfRun?, isBlankText, isCapture,
        captureRank, captureCap]
  | choice as =>
      simp [parts, content, rank?, rankOfRun?, isBlankText, isCapture]
      cases rankOfAlternatives? as <;> rfl
  | _ =>
      simp [parts, content, rank?, rankOfRun?, isBlankText, isCapture]

theorem content_of_rank?
    {t : Tree} {n : Nat}
    (h : t.rank? = some n) :
    t.content = t := by
  cases t with
  | optional inner =>
      cases h
  | _ =>
      rfl

end Tree

theorem eventPattern_of_not_star
    {p : String}
    (h : p.toList.head? ≠ some '*') :
    eventPattern p = "[on] " ++ p := by
  have hstar : afterStar? p = none := by
    rw [afterStar?]
    split
    · rename_i cs hcs
      simp [hcs] at h
    · rfl
  rw [eventPattern, hstar]

theorem compile_on [Regex.Dialect] :
    compile "[on] " = .ok Tree.onPrefix := by
  cbv

/-- Unless it starts with a star, the text of an event and its pattern
can both be read or neither. The optional "on" then adds no slots, and
the pattern has the rank of the text whenever the text has one. -/
theorem compile_eventPattern
    [Regex.Dialect]
    {p : String}
    (h : p.toList.head? ≠ some '*') :
    ((∃ u, compile (eventPattern p) = .ok u) ↔ ∃ t, compile p = .ok t) ∧
      ∀ t u, compile p = .ok t → compile (eventPattern p) = .ok u →
        u.slots = t.slots ∧ ∀ n, t.rank? = some n → u.rank? = some n := by
  rw [eventPattern_of_not_star h]
  refine ⟨⟨?_, ?_⟩, ?_⟩
  · rintro ⟨u, hu⟩
    cases hp : compile p with
    | ok t =>
        exact ⟨t, rfl⟩
    | error d =>
        -- a fault behind the prefix is one of the whole
        obtain ⟨f, hf, -⟩ := compile_error_iff.1 hp
        have hfault := parse_append_of_ok (compile_ok_iff.1 compile_on) hf
        rw [compile_ok_iff, String.toList_append, hfault] at hu
        cases hu
  · rintro ⟨t, ht⟩
    exact ⟨_, compile_append_of_ok compile_on ht⟩
  · intro t u ht hu
    have happend := compile_append_of_ok compile_on ht
    obtain rfl : u = Tree.onPrefix.append t := Except.ok.inj (hu.symm.trans happend)
    refine ⟨Tree.slots_append _ _, fun n hn => ?_⟩
    calc
      (Tree.onPrefix.append t).rank? = (Tree.compound t.parts).rank? :=
        Tree.rank?_append_onPrefix t
      _ = t.content.rank? := Tree.rank?_compound_parts t
      _ = t.rank? := by rw [Tree.content_of_rank? hn]
      _ = some n := hn

set_option maxRecDepth 4000 in
/-- A text that starts with a blank and an optional
group, in front of a choice with a slot. -/
theorem compile_eventPattern_leading :
    ∃ t u, compile " [a] (b|1¦%c%)" = .ok t ∧
      compile (eventPattern " [a] (b|1¦%c%)") = .ok u ∧
      u.slots = [⟨["c"], .both, false, false⟩] ∧ t.rank? = some 2 ∧
      u.rank? = some 2 := by
  have hread : compile " [a] (b|1¦%c%)" =
      .ok (.compound [.text " ", .optional (.text "a"), .text " ",
        .choice [⟨0, .text "b"⟩, ⟨1, .slot ⟨["c"], .both, false, false⟩⟩]]) := by
    cbv
  obtain ⟨hiff, hsame⟩ := compile_eventPattern (p := " [a] (b|1¦%c%)") (by decide)
  obtain ⟨u, hu⟩ := hiff.2 ⟨_, hread⟩
  obtain ⟨hslots, hrank⟩ := hsame _ u hread hu
  exact ⟨_, u, hread, hu, hslots, by decide, hrank 2 (by decide)⟩

end Pattern
end TriggerScript
