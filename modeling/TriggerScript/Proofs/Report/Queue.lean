import TriggerScript.Report.Queue

/-!
# What queues keep

A queue may leave out what is reported to it, but never the first report: nothing is over
the limit then, and nothing is repeated. A queue that is empty in the end therefore tells
that nothing was reported.
-/

namespace TriggerScript
namespace Report
namespace Queue

variable {q q' q'' : Queue} {P P' : Prop}

/-- A report is kept at the end of the queue, or not at all. -/
theorem kept_push
    (q : Queue) (d : Diagnostic) :
    ∃ listed, listed.Sublist [d] ∧ (q.push d).kept = q.kept ++ listed := by
  unfold push add
  split
  · exact ⟨[], List.nil_sublist _, (List.append_nil _).symm⟩
  · split
    · exact ⟨[], List.nil_sublist _, (List.append_nil _).symm⟩
    · exact ⟨[d], List.Sublist.refl _, rfl⟩

/-- Of several reports some are kept, in the order in which they were made. -/
theorem kept_extend
    (q : Queue) (ds : List Diagnostic) :
    ∃ listed, listed.Sublist ds ∧ (q.extend ds).kept = q.kept ++ listed := by
  induction ds generalizing q with
  | nil =>
      exact ⟨[], List.nil_sublist _, (List.append_nil _).symm⟩
  | cons d ds ih =>
      obtain ⟨first, hfirst, hpush⟩ := kept_push q d
      obtain ⟨rest, hrest, hextend⟩ := ih (q.push d)
      refine ⟨first ++ rest, hfirst.append hrest, ?_⟩
      rw [← List.append_assoc, ← hpush]
      exact hextend

theorem kept_isPrefix_extend
    (q : Queue) (ds : List Diagnostic) :
    q.kept <+: (q.extend ds).kept := by
  obtain ⟨listed, _, hkept⟩ := kept_extend q ds
  rw [hkept]
  exact List.prefix_append q.kept listed

theorem extend_append
    (q : Queue) (ds ds' : List Diagnostic) :
    q.extend (ds ++ ds') = (q.extend ds).extend ds' :=
  List.foldl_append

/-- An error is counted, kept or not. -/
theorem errorCount_push
    (q : Queue) (d : Diagnostic) :
    (q.push d).errorCount = q.errorCountWith d := by
  unfold push add
  split
  · rfl
  · split <;> rfl

theorem errorCount_extend
    (q : Queue) (ds : List Diagnostic) :
    (q.extend ds).errorCount = q.errorCount + ds.countP Diagnostic.isError := by
  induction ds generalizing q with
  | nil =>
      rfl
  | cons d ds ih =>
      have hextend : q.extend (d :: ds) = (q.push d).extend ds := rfl
      rw [hextend, ih, errorCount_push, errorCountWith, List.countP_cons]
      split <;> omega

/-- The first report is kept, whatever the limits are. -/
theorem kept_push_empty
    (limits : Limits) (d : Diagnostic) :
    ((empty limits).push d).kept = [d] := by
  have hlimit : (empty limits).overLimit d = false := by
    by_cases hzero : limits.errorLimit = 0 <;> simp [overLimit, empty, hzero]
  have hrepeat : (empty limits).repeats d = false := by
    simp [repeats, empty]
  rw [push, add, hlimit, hrepeat]
  rfl

theorem kept_extend_empty_eq_nil_iff
    (limits : Limits) (ds : List Diagnostic) :
    ((empty limits).extend ds).kept = [] ↔ ds = [] := by
  constructor
  · intro hnone
    cases ds with
    | nil =>
        rfl
    | cons d ds =>
        have hkept := kept_isPrefix_extend ((empty limits).push d) ds
        rw [kept_push_empty] at hkept
        have hmem : d ∈ ((empty limits).extend (d :: ds)).kept :=
          hkept.subset List.mem_cons_self
        rw [hnone] at hmem
        cases hmem
  · rintro rfl
    rfl

/-- Whether something is reported between two
states of a queue unless a condition holds. -/
def ReportsUnless
    (q q' : Queue) (P : Prop) : Prop :=
  ∃ ds, q' = q.extend ds ∧ (ds = [] ↔ P)

namespace ReportsUnless

theorem refl
    (hP : P) :
    q.ReportsUnless q P := by
  exact ⟨[], rfl, by simp [hP]⟩

theorem push
    (hP : ¬P) (d : Diagnostic) :
    q.ReportsUnless (q.push d) P := by
  exact ⟨[d], rfl, by simp [hP]⟩

theorem congr
    (h : q.ReportsUnless q' P)
    (hiff : P ↔ P') :
    q.ReportsUnless q' P' := by
  obtain ⟨ds, hq', hds⟩ := h
  exact ⟨ds, hq', hds.trans hiff⟩

/-- One thing after another reports nothing if neither does. -/
theorem trans
    (h : q.ReportsUnless q' P)
    (h' : q'.ReportsUnless q'' P') :
    q.ReportsUnless q'' (P ∧ P') := by
  obtain ⟨ds, rfl, hds⟩ := h
  obtain ⟨ds', rfl, hds'⟩ := h'
  refine ⟨ds ++ ds', (extend_append q ds ds').symm, ?_⟩
  rw [List.append_eq_nil_iff, hds, hds']

/-- A queue that was empty at first is empty in the end if nothing was reported. -/
theorem kept_eq_nil_iff
    {limits : Limits}
    (h : (empty limits).ReportsUnless q P) :
    q.kept = [] ↔ P := by
  obtain ⟨ds, rfl, hds⟩ := h
  exact (kept_extend_empty_eq_nil_iff limits ds).trans hds

end ReportsUnless

end Queue
end Report
end TriggerScript
