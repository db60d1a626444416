import Mathlib.Data.List.Induction
import TriggerScript.Proofs.Report.Oblivious

/-!
# Which reports are kept

What a queue keeps is a selection of the reports since it was new or flushed, made one
report after another. A report is left out if it repeats one that is kept, and an error
also if the limit is exhausted, which depends on the errors that were reported. A limit
on the errors that are kept would leave out fewer: behind repeats the queue may lose
errors for which there is room.
-/

namespace TriggerScript
namespace Report

/-- A rule by which a report is left out, given the
reports before it and such of them as are kept. -/
abbrev Omission := List Diagnostic → List Diagnostic → Diagnostic → Prop

/-- Which of several reports are kept if all are that a rule does not leave out. -/
inductive Selection
    (omits : Omission) : List Diagnostic → List Diagnostic → Prop
  | empty :
      Selection omits [] []
  | keep
      {reports kept : List Diagnostic} {d : Diagnostic}
      (h : Selection omits reports kept)
      (hd : ¬omits reports kept d) :
      Selection omits (reports ++ [d]) (kept ++ [d])
  | leave
      {reports kept : List Diagnostic} {d : Diagnostic}
      (h : Selection omits reports kept)
      (hd : omits reports kept d) :
      Selection omits (reports ++ [d]) kept

namespace Selection

variable {omits : Omission} {reports kept kept' : List Diagnostic} {d : Diagnostic}

theorem eq_nil
    (h : Selection omits [] kept) :
    kept = [] := by
  generalize hreports : ([] : List Diagnostic) = reports at h
  cases h with
  | empty =>
      rfl
  | keep h hd =>
      simp at hreports
  | leave h hd =>
      simp at hreports

/-- The last report is decided upon behind the others. -/
theorem concat_cases
    (h : Selection omits (reports ++ [d]) kept') :
    ∃ kept, Selection omits reports kept ∧
      (¬omits reports kept d ∧ kept' = kept ++ [d] ∨ omits reports kept d ∧
        kept' = kept) := by
  generalize hreports : reports ++ [d] = all at h
  cases h with
  | empty =>
      simp at hreports
  | keep h hd =>
      obtain ⟨rfl, hlast⟩ := List.append_inj' hreports rfl
      cases hlast
      exact ⟨_, h, Or.inl ⟨hd, rfl⟩⟩
  | leave h hd =>
      obtain ⟨rfl, hlast⟩ := List.append_inj' hreports rfl
      cases hlast
      exact ⟨_, h, Or.inr ⟨hd, rfl⟩⟩

theorem unique
    (h : Selection omits reports kept)
    (h' : Selection omits reports kept') :
    kept' = kept := by
  induction h generalizing kept' with
  | empty =>
      exact h'.eq_nil
  | keep h hd ih =>
      obtain ⟨earlier, hearlier, ⟨-, rfl⟩ | ⟨homits, rfl⟩⟩ := h'.concat_cases
      · rw [ih hearlier]
      · rw [ih hearlier] at homits
        exact absurd homits hd
  | leave h hd ih =>
      obtain ⟨earlier, hearlier, ⟨hkeeps, rfl⟩ | ⟨-, rfl⟩⟩ := h'.concat_cases
      · rw [ih hearlier] at hkeeps
        exact absurd hd hkeeps
      · exact ih hearlier

theorem exists_selection
    (omits : Omission) (reports : List Diagnostic) :
    ∃ kept, Selection omits reports kept := by
  induction reports using List.reverseRecOn with
  | nil =>
      exact ⟨[], .empty⟩
  | append_singleton reports d ih =>
      obtain ⟨kept, h⟩ := ih
      by_cases hd : omits reports kept d
      · exact ⟨kept, h.leave hd⟩
      · exact ⟨kept ++ [d], h.keep hd⟩

end Selection

/-- How many of several reports are errors. -/
def countErrors
    (reports : List Diagnostic) : Nat :=
  reports.countP Diagnostic.isError

theorem countErrors_concat
    (reports : List Diagnostic) (d : Diagnostic) :
    countErrors (reports ++ [d]) =
      countErrors reports + (if d.isError then 1 else 0) := by
  simp [countErrors, List.countP_append, List.countP_singleton]

namespace Limits

/-- Whether a report repeats the code, message and
source of one that is kept, and is not to. -/
def Repeated
    (limits : Limits) (kept : List Diagnostic) (d : Diagnostic) : Prop :=
  limits.deduplicate = true ∧
    ∃ k ∈ kept, k.code = d.code ∧ k.message = d.message ∧ k.source = d.source

/-- Whether a report is an error although no more
than the given number of errors is let in. -/
def Exhausted
    (limits : Limits) (errors : Nat) (d : Diagnostic) : Prop :=
  d.isError = true ∧ limits.errorLimit ≠ 0 ∧ limits.errorLimit ≤ errors

/-- The rule of queues, by which all errors that are reported count for the limit. -/
def omits
    (limits : Limits) : Omission :=
  fun reports kept d => limits.Exhausted (countErrors reports) d ∨ limits.Repeated kept d

/-- The rule by which only the errors that are kept count for the limit. -/
def omitsBeyondKept
    (limits : Limits) : Omission :=
  fun _ kept d => limits.Exhausted (countErrors kept) d ∨ limits.Repeated kept d

end Limits

theorem repeatKey_eq_iff
    {d d' : Diagnostic} :
    d.repeatKey = d'.repeatKey ↔
      d.code = d'.code ∧ d.message = d'.message ∧ d.source = d'.source := by
  simp [Diagnostic.repeatKey]

namespace Queue

variable {q : Queue} {limits : Limits} {reports : List Diagnostic}

/-- Whether a queue has taken the reports so far into account. -/
structure Accounts
    (q : Queue) (reports : List Diagnostic) : Prop where
  errorCount : q.errorCount = countErrors reports
  mem_reported : ∀ key, key ∈ q.reported ↔ ∃ k ∈ q.kept, k.repeatKey = key

theorem accounts_empty
    (limits : Limits) :
    (empty limits).Accounts [] := by
  constructor
  · rfl
  · intro key
    simp [empty]

theorem Accounts.overLimit_iff
    (h : q.Accounts reports) (d : Diagnostic) :
    q.overLimit d = true ↔ q.limits.Exhausted (countErrors reports) d := by
  simp only [overLimit, Limits.Exhausted, h.errorCount, Bool.and_eq_true, bne_iff_ne,
    decide_eq_true_eq, Nat.lt_succ_iff, and_assoc]

theorem Accounts.repeats_iff
    (h : q.Accounts reports) (d : Diagnostic) :
    q.repeats d = true ↔ q.limits.Repeated q.kept d := by
  simp [repeats, Limits.Repeated, h.mem_reported, repeatKey_eq_iff]

/-- What reporting comes to: the rule decides whether the report is kept. -/
theorem Accounts.add_cases
    (h : q.Accounts reports) (d : Diagnostic) :
    (q.limits.omits reports q.kept d ∧
        q.add d = (false, { q with errorCount := q.errorCountWith d })) ∨
      (¬q.limits.omits reports q.kept d ∧
        q.add d =
          (true,
            { q with
              kept := q.kept ++ [d]
              reported := d.repeatKey :: q.reported
              errorCount := q.errorCountWith d })) := by
  rw [Limits.omits, ← h.overLimit_iff, ← h.repeats_iff, add]
  cases q.overLimit d with
  | true =>
      exact Or.inl ⟨Or.inl rfl, rfl⟩
  | false =>
      cases q.repeats d with
      | true =>
          exact Or.inl ⟨Or.inr rfl, rfl⟩
      | false =>
          exact Or.inr ⟨by simp, rfl⟩

theorem Accounts.errorCountWith
    (h : q.Accounts reports) (d : Diagnostic) :
    q.errorCountWith d = countErrors (reports ++ [d]) := by
  rw [Queue.errorCountWith, h.errorCount, countErrors_concat]
  split <;> rfl

theorem Accounts.push
    (h : q.Accounts reports) (d : Diagnostic) :
    (q.push d).Accounts (reports ++ [d]) := by
  have hcount := h.errorCountWith d
  rcases h.add_cases d with ⟨-, hadd⟩ | ⟨-, hadd⟩
  · rw [Queue.push, hadd]
    exact ⟨hcount, h.mem_reported⟩
  · rw [Queue.push, hadd]
    refine ⟨hcount, ?_⟩
    intro key
    simp only [List.mem_cons, List.mem_append, List.not_mem_nil,
      or_false, h.mem_reported]
    constructor
    · rintro (rfl | ⟨k, hk, rfl⟩)
      · exact ⟨d, Or.inr rfl, rfl⟩
      · exact ⟨k, Or.inl hk, rfl⟩
    · rintro ⟨k, hk | rfl, rfl⟩
      · exact Or.inr ⟨k, hk, rfl⟩
      · exact Or.inl rfl

theorem limits_push
    (q : Queue) (d : Diagnostic) :
    (q.push d).limits = q.limits := by
  unfold push add
  split
  · rfl
  · split <;> rfl

theorem limits_extend
    (q : Queue) (ds : List Diagnostic) :
    (q.extend ds).limits = q.limits := by
  refine List.foldlRecOn (motive := fun q' => q'.limits = q.limits) ds push rfl ?_
  intro q' hq' d _
  exact (limits_push q' d).trans hq'

theorem extend_concat
    (q : Queue) (ds : List Diagnostic) (d : Diagnostic) :
    q.extend (ds ++ [d]) = (q.extend ds).push d :=
  extend_append q ds [d]

theorem accounts_extend
    (limits : Limits) (reports : List Diagnostic) :
    ((empty limits).extend reports).Accounts reports := by
  induction reports using List.reverseRecOn with
  | nil =>
      exact accounts_empty limits
  | append_singleton reports d ih =>
      rw [extend_concat]
      exact ih.push d

end Queue

namespace Limits

open Queue

variable {limits : Limits} {reports : List Diagnostic} {d : Diagnostic}

/-- One more report is kept behind the others unless the rule leaves it out. -/
theorem kept_concat_cases
    (limits : Limits) (reports : List Diagnostic) (d : Diagnostic) :
    (limits.omits reports (limits.kept reports) d ∧
        limits.kept (reports ++ [d]) = limits.kept reports) ∨
      (¬limits.omits reports (limits.kept reports) d ∧
        limits.kept (reports ++ [d]) = limits.kept reports ++ [d]) := by
  have hlimits : ((empty limits).extend reports).limits = limits :=
    limits_extend (empty limits) reports
  have hcases := (accounts_extend limits reports).add_cases d
  rw [hlimits] at hcases
  unfold kept
  rw [extend_concat, push]
  rcases hcases with ⟨homits, hadd⟩ | ⟨hkeeps, hadd⟩
  · exact Or.inl ⟨homits, by rw [hadd]⟩
  · exact Or.inr ⟨hkeeps, by rw [hadd]⟩

/-- What a queue keeps is the selection that its rule makes. -/
theorem selection_kept
    (limits : Limits) (reports : List Diagnostic) :
    Selection limits.omits reports (limits.kept reports) := by
  induction reports using List.reverseRecOn with
  | nil =>
      exact .empty
  | append_singleton reports d ih =>
      rcases limits.kept_concat_cases reports d with ⟨homits, hkept⟩ | ⟨hkeeps, hkept⟩
      · rw [hkept]
        exact ih.leave homits
      · rw [hkept]
        exact ih.keep hkeeps

theorem countErrors_kept_le
    (limits : Limits) (reports : List Diagnostic) :
    countErrors (limits.kept reports) ≤ countErrors reports :=
  (limits.kept_sublist reports).countP_le

/-- Whether each error that is left out behind the limit repeats one that is kept, or
comes when as many errors are kept as the limit lets in. -/
def NoneLost
    (limits : Limits) (reports : List Diagnostic) : Prop :=
  ∀ earlier d, earlier ++ [d] <+: reports → limits.Exhausted (countErrors earlier) d →
    limits.omitsBeyondKept earlier (limits.kept earlier) d

theorem noneLost_concat_iff :
    limits.NoneLost (reports ++ [d]) ↔
      limits.NoneLost reports ∧
        (limits.Exhausted (countErrors reports) d →
          limits.omitsBeyondKept reports (limits.kept reports) d) := by
  constructor
  · intro h
    refine ⟨?_, h reports d (List.prefix_refl _)⟩
    intro earlier d' hearlier
    exact h earlier d' (hearlier.trans (List.prefix_append _ _))
  · rintro ⟨h, hlast⟩ earlier d' hearlier
    rcases List.prefix_concat_iff.1 hearlier with heq | hearlier
    · obtain ⟨rfl, hd⟩ := List.append_inj' heq rfl
      cases hd
      exact hlast
    · exact h earlier d' hearlier

/-- A limit on the errors that are kept selects the same reports as long as none is lost,
and more errors from the first one on that is lost. -/
theorem selection_beyondKept_cases
    {kept : List Diagnostic}
    (h : Selection limits.omitsBeyondKept reports kept) :
    (limits.NoneLost reports ∧ kept = limits.kept reports) ∨
      (¬limits.NoneLost reports ∧
        (limits.errorLimit ≠ 0 ∧ limits.errorLimit ≤ countErrors reports) ∧
          countErrors (limits.kept reports) < countErrors kept) := by
  induction reports using List.reverseRecOn generalizing kept with
  | nil =>
      refine Or.inl ⟨?_, h.eq_nil⟩
      intro earlier d hearlier
      simp at hearlier
  | append_singleton reports d ih =>
      have hle := limits.countErrors_kept_le reports
      obtain ⟨k, hk, hdecided⟩ := h.concat_cases
      rw [noneLost_concat_iff]
      rcases ih hk with ⟨hnone, rfl⟩ | ⟨hlost, ⟨hlimit, hreached⟩, hlt⟩
      · -- so far the selections are the same
        rcases limits.kept_concat_cases reports d with ⟨homits, hkept⟩ | ⟨hkeeps, hkept⟩
        · rcases hdecided with ⟨hroom, rfl⟩ | ⟨hleft, rfl⟩
          · -- the first error that is lost
            have hexhausted : limits.Exhausted (countErrors reports) d :=
              homits.resolve_right fun hrepeated => hroom (Or.inr hrepeated)
            refine Or.inr ⟨fun hboth => hroom (hboth.2 hexhausted),
              ⟨hexhausted.2.1, ?_⟩, ?_⟩
            · rw [countErrors_concat]
              exact Nat.le_add_right_of_le hexhausted.2.2
            · rw [hkept, countErrors_concat, if_pos hexhausted.1]
              exact Nat.lt_succ_self _
          · exact Or.inl ⟨⟨hnone, fun _ => hleft⟩, hkept.symm⟩
        · rcases hdecided with ⟨hroom, rfl⟩ | ⟨hleft, rfl⟩
          · exact Or.inl
              ⟨⟨hnone, fun hexhausted => absurd (Or.inl hexhausted) hkeeps⟩, hkept.symm⟩
          · refine absurd (hleft.imp_left ?_) hkeeps
            rintro ⟨herror, hlimit, hreached⟩
            exact ⟨herror, hlimit, Nat.le_trans hreached hle⟩
      · -- the limit is exhausted, so that no further error is kept
        refine Or.inr ⟨fun hboth => hlost hboth.1, ⟨hlimit, ?_⟩, ?_⟩
        · rw [countErrors_concat]
          exact Nat.le_add_right_of_le hreached
        · have hno : countErrors (limits.kept (reports ++ [d])) ≤
              countErrors (limits.kept reports) := by
            rcases limits.kept_concat_cases reports d with ⟨-, hkept⟩ | ⟨hkeeps, hkept⟩
            · exact Nat.le_of_eq (congrArg countErrors hkept)
            · have hwarning : ¬d.isError = true := by
                intro herror
                exact hkeeps (Or.inl ⟨herror, hlimit, hreached⟩)
              rw [hkept, countErrors_concat, if_neg hwarning]
              exact Nat.le_refl _
          have hmore : countErrors k ≤ countErrors kept := by
            rcases hdecided with ⟨-, rfl⟩ | ⟨-, rfl⟩
            · rw [countErrors_concat]
              exact Nat.le_add_right _ _
            · exact Nat.le_refl _
          omega

theorem selection_beyondKept_iff :
    Selection limits.omitsBeyondKept reports (limits.kept reports) ↔
      limits.NoneLost reports := by
  constructor
  · intro h
    rcases selection_beyondKept_cases h with ⟨hnone, -⟩ | ⟨-, -, hlt⟩
    · exact hnone
    · exact absurd hlt (Nat.lt_irrefl _)
  · intro hnone
    obtain ⟨kept, h⟩ := Selection.exists_selection limits.omitsBeyondKept reports
    rcases selection_beyondKept_cases h with ⟨-, rfl⟩ | ⟨hlost, -⟩
    · exact h
    · exact absurd hnone hlost

end Limits

namespace Queue

/-- A call that changes a queue. -/
inductive Call where
  | add (d : Diagnostic)
  | extend (ds : List Diagnostic)
  | flush

def Call.perform
    (q : Queue) : Call → Queue
  | .add d => (q.add d).2
  | .extend ds => q.extend ds
  | .flush => q.flush.2

/-- The queue after several calls, the first of them first. -/
def performAll
    (q : Queue) (calls : List Call) : Queue :=
  calls.foldl Call.perform q

/-- What is reported since the last flush, after a call. -/
def Call.reported
    (reports : List Diagnostic) : Call → List Diagnostic
  | .add d => reports ++ [d]
  | .extend ds => reports ++ ds
  | .flush => []

/-- What is reported since the last flush, or from the start if there is none. -/
def unflushed
    (calls : List Call) : List Diagnostic :=
  calls.foldl Call.reported []

theorem perform_extend
    (limits : Limits) (reports : List Diagnostic) (call : Call) :
    call.perform ((empty limits).extend reports) =
      (empty limits).extend (call.reported reports) := by
  cases call with
  | add d =>
      exact (extend_concat _ reports d).symm
  | extend ds =>
      exact (extend_append _ reports ds).symm
  | flush =>
      exact congrArg empty (limits_extend (empty limits) reports)

/-- Only what is reported since the last flush counts. -/
theorem performAll_empty
    (limits : Limits) (calls : List Call) :
    (empty limits).performAll calls = (empty limits).extend (unflushed calls) := by
  change calls.foldl Call.perform ((empty limits).extend []) = _
  exact List.foldl_hom (empty limits).extend (perform_extend limits)

/-- After any calls, a queue keeps what its rule selects from the reports since the last
flush, in order: all but repeats of what is kept, and errors behind as many errors that
were reported as its limit lets in. It has counted all errors, whether they were kept or
not; the answer to a further report tells whether it is kept; and a flush hands over what
is kept. A limit on the errors that are kept would select the same if and only if each
error that was left out for the limit is one that it would leave out, too. -/
theorem kept_performAll
    (limits : Limits) (calls : List Call) :
    let q := (empty limits).performAll calls
    let reports := unflushed calls
    (∀ kept, Selection limits.omits reports kept ↔ kept = q.kept) ∧
      q.errorCount = countErrors reports ∧
      (∀ d, (q.add d).1 = true ↔ ¬limits.omits reports q.kept d) ∧
      q.flush = (q.kept, empty limits) ∧
      (Selection limits.omitsBeyondKept reports q.kept ↔ limits.NoneLost reports) := by
  intro q reports
  have hq : q = (empty limits).extend reports := performAll_empty limits calls
  have haccounts := accounts_extend limits reports
  have hlimits : ((empty limits).extend reports).limits = limits :=
    limits_extend (empty limits) reports
  have hselection := limits.selection_kept reports
  rw [hq]
  refine ⟨?_, haccounts.errorCount, ?_, ?_, Limits.selection_beyondKept_iff⟩
  · intro kept
    constructor
    · intro h
      exact hselection.unique h
    · rintro rfl
      exact hselection
  · intro d
    have hcases := haccounts.add_cases d
    rw [hlimits] at hcases
    rcases hcases with ⟨homits, hadd⟩ | ⟨hkeeps, hadd⟩
    · simp [hadd, homits]
    · simp [hadd, hkeeps]
  · rw [flush, hlimits]

/-- The diagnostic of a type that is not known. -/
def unknown
    (name : String) : Diagnostic :=
  (Diagnostic.error .unknownType).withMessage name

/-- With two errors let in and repeats left out, one error
that is reported twice takes the room of another. -/
theorem not_forall_selection_beyondKept :
    ¬∀ (limits : Limits) (calls : List Call),
      Selection limits.omitsBeyondKept (unflushed calls)
        ((empty limits).performAll calls).kept := by
  intro h
  have hselection :=
    h ⟨2, true⟩ [.add (unknown "a"), .add (unknown "a"), .add (unknown "b")]
  have hnone := Limits.selection_beyondKept_iff.1 hselection
  have hexhausted :
      Limits.Exhausted ⟨2, true⟩ (countErrors [unknown "a", unknown "a"])
        (unknown "b") := by
    refine ⟨?_, ?_, ?_⟩ <;> decide
  have hkept : Limits.kept ⟨2, true⟩ [unknown "a", unknown "a"] =
      [unknown "a"] := by decide
  have homits := hnone [unknown "a",
    unknown "a"] (unknown "b") (List.prefix_refl _) hexhausted
  rw [hkept] at homits
  rcases homits with ⟨-, -, hreached⟩ | ⟨-, k, hk, -, hmessage, -⟩
  · exact absurd hreached (by decide)
  · rw [List.mem_singleton.1 hk] at hmessage
    exact absurd hmessage (by decide)

end Queue

end Report
end TriggerScript
