import TriggerScript.Proofs.Report.Queue

/-!
# Computations that only report

A computation may be handed a queue of diagnostics for no other purpose than to report to
it. Then what it results in does not depend on the queue, and neither does what it
reports: the limits of the queue only decide which of the reports are kept. Whether there
was an error is not up to them.
-/

namespace TriggerScript
namespace Report

/-- Such of several reports as a queue with these limits keeps. -/
def Limits.kept
    (limits : Limits) (reports : List Diagnostic) : List Diagnostic :=
  ((Queue.empty limits).extend reports).kept

theorem Limits.kept_sublist
    (limits : Limits) (reports : List Diagnostic) :
    (limits.kept reports).Sublist reports := by
  obtain ⟨listed, hlisted, hkept⟩ := Queue.kept_extend (Queue.empty limits) reports
  rw [Limits.kept, hkept]
  exact hlisted

variable {α β ε : Type}

/-- Whether a computation does nothing with a queue but report to it. -/
def Oblivious
    (f : Queue → α × Queue) : Prop :=
  ∃ a reports, ∀ q, f q = (a, q.extend reports)

/-- Whether a computation that may fail does nothing with a queue but report to it. -/
def ObliviousTry
    (f : Queue → Except ε (α × Queue)) : Prop :=
  ∃ outcome : Except ε (α × List Diagnostic), ∀ q, f q = outcome.map fun x =>
    (x.1, q.extend x.2)

theorem oblivious_pure
    (a : α) :
    Oblivious fun q => (a, q) :=
  ⟨a, [], fun _ => rfl⟩

theorem Oblivious.push
    {f : Queue → α × Queue}
    (hf : Oblivious f)
    (d : Diagnostic) :
    Oblivious fun q => f (q.push d) := by
  obtain ⟨a, reports, hf⟩ := hf
  exact ⟨a, d :: reports, fun q => hf (q.push d)⟩

theorem Oblivious.bind
    {f : Queue → α × Queue} {g : α → Queue → β × Queue}
    (hf : Oblivious f)
    (hg : ∀ a, Oblivious (g a)) :
    Oblivious fun q => g (f q).1 (f q).2 := by
  obtain ⟨a, reports, hf⟩ := hf
  obtain ⟨b, more, hg⟩ := hg a
  refine ⟨b, reports ++ more, ?_⟩
  intro q
  simp only [hf, hg, Queue.extend_append]

namespace ObliviousTry

theorem ok
    {f : Queue → α × Queue}
    (hf : Oblivious f) :
    ObliviousTry (ε := ε) fun q => .ok (f q) := by
  obtain ⟨a, reports, hf⟩ := hf
  exact ⟨.ok (a, reports), fun q => congrArg Except.ok (hf q)⟩

theorem error
    (e : ε) :
    ObliviousTry (α := α) fun _ => .error e :=
  ⟨.error e, fun _ => rfl⟩

theorem push
    {f : Queue → Except ε (α × Queue)}
    (hf : ObliviousTry f)
    (d : Diagnostic) :
    ObliviousTry fun q => f (q.push d) := by
  obtain ⟨outcome, hf⟩ := hf
  refine ⟨outcome.map fun x => (x.1, d :: x.2), ?_⟩
  intro q
  refine (hf (q.push d)).trans ?_
  cases outcome <;> rfl

/-- What is done with the result of such a computation reports behind it. -/
theorem bind
    {f : Queue → Except ε (α × Queue)} {g : α × Queue → Except ε (β × Queue)}
    (hf : ObliviousTry f)
    (hg : ∀ a, ObliviousTry fun q => g (a, q)) :
    ObliviousTry fun q => f q >>= g := by
  obtain ⟨outcome, hf⟩ := hf
  cases outcome with
  | error e =>
      refine ⟨.error e, ?_⟩
      intro q
      dsimp only
      rw [hf]
      rfl
  | ok x =>
      obtain ⟨a, reports⟩ := x
      obtain ⟨outcome, hg⟩ := hg a
      refine ⟨outcome.map fun x => (x.1, reports ++ x.2), ?_⟩
      intro q
      dsimp only
      rw [hf]
      refine (hg (q.extend reports)).trans ?_
      cases outcome with
      | error e =>
          rfl
      | ok x =>
          simp only [Except.map, Queue.extend_append]

end ObliviousTry

/-- Whether there was an error does not depend on the limits. -/
theorem hasErrors_extend_empty
    (limits : Limits) (reports : List Diagnostic) :
    ((Queue.empty limits).extend reports).hasErrors =
      (reports.countP Diagnostic.isError != 0) := by
  rw [Queue.hasErrors, Queue.errorCount_extend]
  simp [Queue.empty]

end Report
end TriggerScript
