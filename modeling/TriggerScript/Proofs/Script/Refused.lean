import TriggerScript.Proofs.Report.Queue
import TriggerScript.Proofs.Script.Ledger
import TriggerScript.Script.ControlFlow

/-!
# Bodies of refused sections

When a section is refused, its body is left out: the assembly counts how many sections
are open inside of it, and leaves the statements out until the refused section is closed.
Expressions are made before the statements that they belong to, and the count is not
asked for them; so of an expression in the body that is refused there is still a report.
The same holds of events, which have no place among the statements.
-/

namespace TriggerScript
namespace Script

open Report

variable {H : Host}

namespace Assembly

section Counting

def Operation.opens : Operation H → Bool
  | .openSection _ _ _ => true
  | _ => false

def Operation.closes : Operation H → Bool
  | .closeSection => true
  | _ => false

/-- How many sections are opened by some calls, accepted or not. -/
def openings
    (body : Journal H) : Nat :=
  body.countP Operation.opens

def closings
    (body : Journal H) : Nat :=
  body.countP Operation.closes

/-- Whether a section that is open before some calls is not closed by any of them: no
first part of them closes more sections than it opens. -/
def StaysInside
    (body : Journal H) : Prop :=
  ∀ part, part <:+ body → closings part ≤ openings part

theorem StaysInside.tail
    {op : Operation H} {body : Journal H}
    (h : StaysInside (op :: body)) :
    StaysInside body :=
  fun part hpart => h part (hpart.trans (List.suffix_cons op body))

end Counting

section Reports

/-- Why an expression or an event is refused in
the place where an assembly stands, if it is. -/
def refusal?
    (a : Assembly H) : Operation H → Option Diagnostic
  | .setEvent event es info =>
      match event.init es (a.setting info) with
      | .ok _ => none
      | .error d => some d
  | .expression e es info =>
      match e.init es (a.setting info) with
      | .ok _ => none
      | .error d => some d
  | _ => none

theorem refusal?_expression_eq_none_iff
    {a : Assembly H} {e : Blueprint H (Expression H)} {es : List (Expression H)}
    {info : MatchInfo} :
    a.refusal? (.expression e es info) = none ↔ (e.init es (a.setting info)).isOk := by
  rw [refusal?]
  cases e.init es (a.setting info) <;> simp [Except.isOk, Except.toBool]

theorem refusal?_setEvent_eq_none_iff
    {a : Assembly H} {event : Blueprint H (Event H)} {es : List (Expression H)}
    {info : MatchInfo} :
    a.refusal? (.setEvent event es info) = none ↔
      (event.init es (a.setting info)).isOk := by
  rw [refusal?]
  cases event.init es (a.setting info) <;> simp [Except.isOk, Except.toBool]

/-- The refusals of expressions and events in one place, in the order of the calls. -/
def refusals
    (a : Assembly H) (body : Journal H) : List Diagnostic :=
  body.reverse.filterMap a.refusal?

theorem refusals_cons
    (a : Assembly H) (op : Operation H) (body : Journal H) :
    a.refusals (op :: body) = a.refusals body ++ (a.refusal? op).toList := by
  rw [refusals, refusals, List.reverse_cons, List.filterMap_append]
  cases h : a.refusal? op <;> simp [h]

/-- Whether an assembly stands in the same place as another one and has the same
statements, so that nothing was added but reports. -/
structure AddsReports
    (a b : Assembly H) (ds : List Diagnostic) : Prop where
  types : b.types = a.types
  state : b.state = a.state
  nodes : b.nodes = a.nodes
  first : b.first = a.first
  tails : b.tails = a.tails
  queue : b.queue = a.queue.extend ds

theorem AddsReports.trans
    {a b c : Assembly H} {ds ds' : List Diagnostic}
    (h : AddsReports a b ds)
    (h' : AddsReports b c ds') :
    AddsReports a c (ds ++ ds') where
  types := h'.types.trans h.types
  state := h'.state.trans h.state
  nodes := h'.nodes.trans h.nodes
  first := h'.first.trans h.first
  tails := h'.tails.trans h.tails
  queue := by
    rw [h'.queue, h.queue, Queue.extend_append]

/-- Elements are told the same in the same place. -/
theorem AddsReports.refusal?_eq
    {a b : Assembly H} {ds : List Diagnostic}
    (h : AddsReports a b ds) :
    b.refusal? = a.refusal? := by
  have hsetting : b.setting = a.setting := by
    unfold setting
    rw [h.types, h.state]
  funext op
  cases op <;> simp only [refusal?, hsetting]

end Reports

/-- A call in the body of a refused section adds nothing but the report of an expression
or event that is refused, and keeps count of the sections. -/
theorem perform_of_refusing
    {a : Assembly H}
    (h : 0 < a.refusedDepth)
    (op : Operation H) :
    AddsReports a (a.perform op) (a.refusal? op).toList ∧
      (a.perform op).refusedDepth = a.refusedDepth + openings [op] - closings [op] := by
  cases op with
  | setEvent event es info =>
      rw [perform, setEvent, refusal?]
      cases event.init es (a.setting info) with
      | ok event =>
          exact ⟨⟨rfl, rfl, rfl, rfl, rfl, rfl⟩, rfl⟩
      | error d =>
          exact ⟨⟨rfl, rfl, rfl, rfl, rfl, rfl⟩, rfl⟩
  | expression e es info =>
      rw [perform, expression, refusal?]
      cases e.init es (a.setting info) with
      | ok e =>
          exact ⟨⟨rfl, rfl, rfl, rfl, rfl, rfl⟩, rfl⟩
      | error d =>
          exact ⟨⟨rfl, rfl, rfl, rfl, rfl, rfl⟩, rfl⟩
  | effect e es info =>
      rw [perform, effect, if_pos h]
      exact ⟨⟨rfl, rfl, rfl, rfl, rfl, rfl⟩, rfl⟩
  | openSection s es info =>
      rw [perform, openSection, if_pos h]
      exact ⟨⟨rfl, rfl, rfl, rfl, rfl, rfl⟩, rfl⟩
  | closeSection =>
      rw [perform, closeSection, if_pos h]
      exact ⟨⟨rfl, rfl, rfl, rfl, rfl, rfl⟩, rfl⟩

/-- The calls in the body of a refused section, up to the one that closes it. -/
theorem after_of_refusing
    {types : TypeSystem} {limits : Limits} {opened body : Journal H}
    (h : 0 < (after types limits opened).refusedDepth)
    (hinside : StaysInside body) :
    AddsReports (after types limits opened) (after types limits (body ++ opened))
        ((after types limits opened).refusals body) ∧
      (after types limits (body ++ opened)).refusedDepth =
        (after types limits opened).refusedDepth + openings body - closings body := by
  induction body with
  | nil =>
      exact ⟨⟨rfl, rfl, rfl, rfl, rfl, rfl⟩, rfl⟩
  | cons op body ih =>
      obtain ⟨hreports, hdepth⟩ := ih hinside.tail
      have hcount := hinside.tail body List.suffix_rfl
      -- the refused section is still open before the last call
      have hrefusing : 0 < (after types limits (body ++ opened)).refusedDepth := by
        rw [hdepth]
        omega
      obtain ⟨hlast, hlastDepth⟩ := perform_of_refusing hrefusing op
      constructor
      · rw [refusals_cons, ← hreports.refusal?_eq]
        exact hreports.trans hlast
      · have hopenings : openings ([op] ++ body) = openings [op] + openings body :=
          List.countP_append
        have hclosings : closings ([op] ++ body) = closings [op] + closings body :=
          List.countP_append
        rw [List.singleton_append] at hopenings hclosings
        rw [List.cons_append, after, hlastDepth, hdepth, hopenings, hclosings]
        omega

/-- Nothing is reported of a body exactly if all
of its expressions and events are accepted. -/
theorem refusals_eq_nil_iff
    {a : Assembly H} {body : Journal H} :
    a.refusals body = [] ↔
      (∀ e es info, .expression e es info ∈ body → (e.init es (a.setting info)).isOk) ∧
        ∀ event es info, .setEvent event es info ∈ body →
          (event.init es (a.setting info)).isOk := by
  rw [refusals, List.filterMap_eq_nil_iff]
  simp only [List.mem_reverse]
  constructor
  · intro h
    exact ⟨fun e es info he => refusal?_expression_eq_none_iff.1 (h _ he),
      fun event es info hevent => refusal?_setEvent_eq_none_iff.1 (h _ hevent)⟩
  · rintro ⟨hexpressions, hevents⟩ op hop
    cases op with
    | setEvent event es info =>
        exact refusal?_setEvent_eq_none_iff.2 (hevents event es info hop)
    | expression e es info =>
        exact refusal?_expression_eq_none_iff.2 (hexpressions e es info hop)
    | _ =>
        rfl

/-- Up to the call that closes it, a refused section is reported once, and of its body
nothing is put into the script; the place for statements stays the same. Opening, closing
and effects report nothing there, but expressions and events are made as everywhere else:
each of them that is refused is reported, so that nothing else is reported exactly if all
of them are accepted. The call that closes the section only ends this. -/
theorem refused_section
    (types : TypeSystem) (limits : Limits) (earlier body : Journal H)
    (s : Blueprint H (Section H)) (es : List (Expression H))
    (info : MatchInfo) {d : Diagnostic}
    (hopen : (after types limits earlier).refusedDepth = 0)
    (hrefused : s.init es ((after types limits earlier).setting info) = .error d)
    (hinside : StaysInside body) :
    let a := after types limits earlier
    let b := after types limits (body ++ .openSection s es info :: earlier)
    AddsReports a b (d :: a.refusals body) ∧
      (a.refusals body = [] ↔
        (∀ e es info, .expression e es info ∈ body → (e.init es (a.setting info)).isOk) ∧
          ∀ event es info, .setEvent event es info ∈ body →
            (event.init es (a.setting info)).isOk) ∧
      b.refusedDepth = 1 + openings body - closings body ∧
      (openings body = closings body →
        b.closeSection = { b with refusedDepth := 0 }) := by
  intro a b
  have hopened : after types limits (.openSection s es info :: earlier) =
      { a.reporting d with refusedDepth := 1 } := by
    rw [after, perform, openSection, if_neg (by omega), hrefused]
  have hsection :
      AddsReports a (after types limits (.openSection s es info :: earlier)) [d] := by
    rw [hopened]
    exact ⟨rfl, rfl, rfl, rfl, rfl, rfl⟩
  have hdepth :
      (after types limits (.openSection s es info :: earlier)).refusedDepth = 1 := by
    rw [hopened]
  have hrefusing :
      0 < (after types limits (.openSection s es info :: earlier)).refusedDepth := by
    rw [hdepth]
    exact Nat.one_pos
  obtain ⟨hreports, hbody⟩ := after_of_refusing hrefusing hinside
  rw [hdepth] at hbody
  rw [refusals, hsection.refusal?_eq] at hreports
  refine ⟨hsection.trans hreports, refusals_eq_nil_iff, hbody, ?_⟩
  intro hbalanced
  have hone : b.refusedDepth = 1 := by
    rw [hbody, hbalanced]
    omega
  rw [closeSection, if_pos (by omega), hone]

section LoopBody

/-- The loop of a host without contexts. -/
def bareLoop : Blueprint ⟨Unit, Unit⟩ (Section ⟨Unit, Unit⟩) :=
  loopBlueprint

/-- The report of a loop without an expression. -/
def missingValues : Diagnostic :=
  (Diagnostic.error .rejectedElement).withMessage "`loop` takes one expression, got 0"

/-- The report of the value of a loop outside of any. -/
def outsideLoop : Diagnostic :=
  (Diagnostic.error .rejectedElement).withMessage
    "`loop-value` can only be used in a loop"

/-- The body of a loop that asks for the value of the
loop, and goes on with the next one under a condition. -/
def loopBody : Journal ⟨Unit, Unit⟩ :=
  [.closeSection, .effect continueBlueprint [] ⟨0, 0⟩,
    .openSection conditionalBlueprint [] ⟨0, 0⟩,
    .expression loopValueBlueprint [] ⟨0, 0⟩]

theorem staysInside_loopBody :
    StaysInside loopBody := by
  intro part hpart
  simp only [loopBody, List.suffix_cons_iff, List.suffix_nil] at hpart
  rcases hpart with rfl | rfl | rfl | rfl | rfl <;> decide +kernel

/-- Of a refused loop in the beginning of a script
two reports are made, of itself and of its value. -/
theorem refused_section_loop :
    let a : Assembly ⟨Unit, Unit⟩ := start TypeSystem.initial Limits.standard
    let b := after TypeSystem.initial Limits.standard
      (loopBody ++ [.openSection bareLoop [] ⟨0, 0⟩])
    a.refusedDepth = 0 ∧
      bareLoop.init [] (a.setting ⟨0, 0⟩) = .error missingValues ∧
      StaysInside loopBody ∧
      AddsReports a b [missingValues, outsideLoop] ∧
      b.closeSection = { b with refusedDepth := 0 } := by
  intro a b
  have hrefused : bareLoop.init [] (a.setting ⟨0, 0⟩) = .error missingValues := by
    rfl
  obtain ⟨hreports, -, -, hclose⟩ :=
    refused_section TypeSystem.initial Limits.standard [] loopBody
      bareLoop [] ⟨0, 0⟩ rfl hrefused staysInside_loopBody
  exact ⟨rfl, hrefused, staysInside_loopBody, hreports, hclose rfl⟩

/-- So calls in the body of a refused section may
be reported, even if none of them sets an event. -/
theorem not_forall_refused_section :
    ¬∀ (types : TypeSystem) (limits : Limits) (earlier body : Journal ⟨Unit, Unit⟩)
        (s : Blueprint ⟨Unit, Unit⟩ (Section ⟨Unit, Unit⟩))
        (info : MatchInfo) (d : Diagnostic),
        (after types limits earlier).refusedDepth = 0 →
          s.init [] ((after types limits earlier).setting info) = .error d →
            StaysInside body →
              (∀ event es info, .setEvent event es info ∉ body) →
                (after types limits (body ++ .openSection s [] info :: earlier)).queue =
                  (after types limits earlier).queue.push d := by
  intro hall
  have hqueue :=
    hall TypeSystem.initial Limits.standard [] loopBody bareLoop ⟨0, 0⟩ missingValues
      rfl rfl staysInside_loopBody (by simp [loopBody])
  have hcount := congrArg Queue.errorCount hqueue
  revert hcount
  decide +kernel

end LoopBody

end Assembly

end Script
end TriggerScript
