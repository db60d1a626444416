import TriggerScript.Proofs.Catalog.Limits
import TriggerScript.Proofs.Script.Ledger

/-!
# Scripts under different limits

Putting a script together does nothing with the queue of diagnostics but report to it, up
to the end, when it matters whether an error was reported, but not which of the reports
were kept. Two assemblies that differ in the limits of their reports therefore accept and
refuse the same elements, and result in the same script.
-/

namespace TriggerScript
namespace Script

open Report

variable {H : Host}

namespace Assembly

/-- The same assembly with another queue. -/
def withQueue
    (a : Assembly H) (queue : Queue) : Assembly H :=
  { a with queue := queue }

theorem answer_withQueue
    (a : Assembly H) (queue : Queue) (op : Operation H) :
    (a.withQueue queue).answer op = a.answer op := by
  have hsetting (info : MatchInfo) : (a.withQueue queue).setting info = a.setting info :=
    rfl
  have hdepth : (a.withQueue queue).refusedDepth = a.refusedDepth := rfl
  cases op with
  | setEvent event es info =>
      simp only [answer, setEvent, hsetting]
      cases event.init es (a.setting info) <;> rfl
  | expression e es info =>
      simp only [answer, expression, hsetting]
      cases e.init es (a.setting info) <;> rfl
  | effect e es info =>
      simp only [answer, effect, hsetting, hdepth]
      split
      · rfl
      · cases e.init es (a.setting info) <;> rfl
  | openSection s es info =>
      simp only [answer, openSection, hsetting, hdepth]
      split
      · rfl
      · cases s.init es (a.setting info) <;> rfl
  | closeSection =>
      rfl

theorem expression_withQueue
    (a : Assembly H) (queue : Queue) (e : Blueprint H (Expression H))
    (es : List (Expression H))
    (info : MatchInfo) :
    ((a.withQueue queue).expression e es info).1 = (a.expression e es info).1 := by
  have hsetting : (a.withQueue queue).setting info = a.setting info := rfl
  simp only [expression, hsetting]
  cases e.init es (a.setting info) <;> rfl

/-- A call changes the queue only by what it
reports, and the rest whatever the queue is. -/
theorem perform_withQueue
    (a : Assembly H) (op : Operation H) :
    ∃ reports : List Diagnostic, ∀ queue,
      (a.withQueue queue).perform op =
        (a.perform op).withQueue (queue.extend reports) := by
  have hsetting (queue : Queue) (info : MatchInfo) :
      (a.withQueue queue).setting info = a.setting info := rfl
  have hdepth (queue : Queue) : (a.withQueue queue).refusedDepth = a.refusedDepth := rfl
  have hstate (queue : Queue) : (a.withQueue queue).state = a.state := rfl
  cases op with
  | setEvent event es info =>
      simp only [perform, setEvent, hsetting]
      cases event.init es (a.setting info) with
      | ok event =>
          exact ⟨[], fun _ => rfl⟩
      | error d =>
          exact ⟨[d], fun _ => rfl⟩
  | expression e es info =>
      simp only [perform, expression, hsetting]
      cases e.init es (a.setting info) with
      | ok e =>
          exact ⟨[], fun _ => rfl⟩
      | error d =>
          exact ⟨[d], fun _ => rfl⟩
  | effect e es info =>
      simp only [perform, effect, hsetting, hdepth]
      split
      · exact ⟨[], fun _ => rfl⟩
      · cases e.init es (a.setting info) with
        | ok e =>
            exact ⟨[], fun _ => rfl⟩
        | error d =>
            exact ⟨[d], fun _ => rfl⟩
  | openSection s es info =>
      simp only [perform, openSection, hsetting, hdepth]
      split
      · exact ⟨[], fun _ => rfl⟩
      · cases s.init es (a.setting info) with
        | ok s =>
            exact ⟨[], fun _ => rfl⟩
        | error d =>
            exact ⟨[d], fun _ => rfl⟩
  | closeSection =>
      simp only [perform, closeSection, hdepth, hstate]
      split
      · exact ⟨[], fun _ => rfl⟩
      · cases a.state.sections with
        | nil =>
            exact ⟨[_], fun _ => rfl⟩
        | cons innermost outer =>
            exact ⟨[], fun _ => rfl⟩

/-- What a journal leads to depends on the limits only in what is kept of its reports. -/
theorem after_eq_withQueue
    (types : TypeSystem) (j : Journal H) :
    ∃ (a : Assembly H) (reports : List Diagnostic), ∀ limits,
      after types limits j = a.withQueue ((Queue.empty limits).extend reports) := by
  induction j with
  | nil =>
      exact ⟨start types Limits.standard, [], fun _ => rfl⟩
  | cons op earlier ih =>
      obtain ⟨a, reports, h⟩ := ih
      obtain ⟨more, hperform⟩ := perform_withQueue a op
      refine ⟨a.perform op, reports ++ more, ?_⟩
      intro limits
      rw [after, h, hperform, Queue.extend_append]

/-- Whether a script is finished does not depend on the limits, and neither does the
script; if it is not, they decide which of the reports are handed over. -/
theorem build_after
    (types : TypeSystem) (j : Journal H) :
    ∃ built : Except (List Diagnostic) (Trigger H), ∀ limits,
      (after types limits j).build = built.mapError limits.kept := by
  obtain ⟨a, reports, h⟩ := after_eq_withQueue types j
  by_cases herror : reports.countP Diagnostic.isError = 0
  · refine ⟨.ok ⟨a.event, a.nodes, a.first⟩, ?_⟩
    intro limits
    have hnone : ((Queue.empty limits).extend reports).hasErrors = false := by
      simp [hasErrors_extend_empty, herror]
    rw [h, build, withQueue, hnone]
    rfl
  · refine ⟨.error reports, ?_⟩
    intro limits
    have hsome : ((Queue.empty limits).extend reports).hasErrors = true := by
      simp [hasErrors_extend_empty, herror]
    rw [h, build, withQueue, hsome]
    rfl

end Assembly

/-- Two runs that differ only in the limits of their reports are alike. Of catalogs that
are given the same registrations, each is accepted by both or refused by both for the
same reason, and afterwards they hold the same. Of assemblies that are given the same
calls, each call has the same answer, and either both result in the same script or
neither is finished. What is listed is a selection of the same reports. -/
theorem limits_only_select [Regex.Dialect] :
    (∀ (c : Catalog H) (limits : Limits) (rs : List (Catalog.Registration H)),
        List.Forall₂
          (fun x x' =>
            (∃ reports : Except Catalog.RegistrationError (List Diagnostic),
              x.1 = reports.map c.config.limits.kept ∧ x'.1 = reports.map limits.kept) ∧
            x'.2 = x.2.withLimits limits)
          (c.attempts rs) ((c.withLimits limits).attempts rs)) ∧
      (∀ (types : TypeSystem) (limits limits' : Limits) (j : Assembly.Journal H),
        (∀ op,
          (Assembly.after types limits' j).answer op =
              (Assembly.after types limits j).answer op) ∧
          (∀ e es info,
            ((Assembly.after types limits' j).expression e es info).1 =
              ((Assembly.after types limits j).expression e es info).1) ∧
          ∃ built : Except (List Diagnostic) (Trigger H),
            (Assembly.after types limits j).build = built.mapError limits.kept ∧
              (Assembly.after types limits' j).build = built.mapError limits'.kept) ∧
      ∀ (limits : Limits) (reports : List Diagnostic),
        (limits.kept reports).Sublist reports := by
  refine ⟨?_, ?_, Limits.kept_sublist⟩
  · intro c limits rs
    exact Catalog.attempts_withLimits c c.config.limits limits rs
  · intro types limits limits' j
    obtain ⟨a, reports, h⟩ := Assembly.after_eq_withQueue types j
    obtain ⟨built, hbuild⟩ := Assembly.build_after types j
    refine ⟨?_, ?_, built, hbuild limits, hbuild limits'⟩
    · intro op
      rw [h, h, Assembly.answer_withQueue, Assembly.answer_withQueue]
    · intro e es info
      rw [h, h, Assembly.expression_withQueue, Assembly.expression_withQueue]

end Script
end TriggerScript
