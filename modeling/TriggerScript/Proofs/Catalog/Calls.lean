import TriggerScript.Catalog.Registration

/-!
# Filling registrations

An addon fills its registration by calls, each of which makes up one declaration, with a
priority of its own or without. A call that asks for a priority below zero is refused and
declares nothing, so each declaration in a registration has exactly the priority that was
asked for.
-/

namespace TriggerScript
namespace Catalog

open Script

variable {H : Host} {α : Type}

/-- A call by which an addon declares something. Properties, conditions, and elements
that are both expressions and effects come down to these calls. -/
inductive Call
    (H : Host) where
  | addType (d : Typing.TypeDeclaration)
  | addConverter (d : Conversion.ConverterDeclaration)
  | addComparator (d : Comparison.ComparatorDeclaration)
  | addExpression
      (e : Element H (Expression H)) (returnType : String) (isSingle : Bool)
      (patterns : List String) (priority : Option Int)
  | addEffect (e : Element H (Effect H)) (patterns : List String) (priority : Option Int)
  | addSection (e : Element H (Section H)) (patterns : List String)
    (priority : Option Int)
  | addEvent
      (e : Element H (Event H)) (patterns : List String) (contexts : List ContextKind)
      (priority : Option Int)
  | addContextValue (v : PendingContextValue H)
  | addTag (name : String) (blueprint : TagBlueprint) (priority : Option Int)

/-- Put a declaration into its registration, with
a priority of its own if there is to be one. -/
def Draft.conclude [Phrased α] [Declarable H α]
    (d : Draft H α) : Option Int → Except RegistrationError (Registration H)
  | none => .ok d.register
  | some priority => d.registerWithPriority priority

namespace Call

def run
    (r : Registration H) : Call H → Except RegistrationError (Registration H)
  | .addType d => .ok (Declarable.declare r d)
  | .addConverter d => .ok (r.addConverter d)
  | .addComparator d => .ok (r.addComparator d)
  | .addExpression e returnType isSingle patterns priority =>
      (r.newExpression e returnType isSingle patterns).conclude priority
  | .addEffect e patterns priority => (r.newEffect e patterns).conclude priority
  | .addSection e patterns priority => (r.newSection e patterns).conclude priority
  | .addEvent e patterns contexts priority =>
      (EventDraft.handling (r.newEvent e patterns) contexts).conclude priority
  | .addContextValue v => .ok (Declarable.declare r v)
  | .addTag name blueprint none => .ok (r.addTag name blueprint)
  | .addTag name blueprint (some priority) =>
      r.addTagWithPriority name blueprint priority

end Call

/-- Whether a priority is the one that was asked
for, or if none was, at most that of a text. -/
def AsRequested
    (request : Option Int) (priority : Nat) : Prop :=
  match request with
  | some p => p = Int.ofNat priority
  | none => priority ≤ Pattern.textRank

namespace Registration

/-- The registration after a call; a refused one declares nothing. -/
def perform
    (r : Registration H) (call : Call H) : Registration H :=
  match call.run r with
  | .ok r => r
  | .error _ => r

/-- The registration of an addon after its calls, the first of them first. -/
def filled
    (addon : String) (calls : List (Call H)) : Registration H :=
  calls.foldl perform (empty addon)

/-- Whether each element and tag of a registration was declared by one of the calls, with
the priority that the call asks for. -/
structure DeclaredBy
    (calls : List (Call H)) (r : Registration H) : Prop where
  expressions :
    ∀ e ∈ r.expressions,
      Call.addExpression e.phrase.element e.returnType e.isSingle e.phrase.patterns
        (e.phrase.priority.map Int.ofNat) ∈ calls
  effects :
    ∀ p ∈ r.effects,
      Call.addEffect p.element p.patterns (p.priority.map Int.ofNat) ∈ calls
  sections :
    ∀ p ∈ r.sections,
      Call.addSection p.element p.patterns (p.priority.map Int.ofNat) ∈ calls
  events :
    ∀ e ∈ r.events, ∃ patterns contexts,
      Call.addEvent e.phrase.element patterns contexts
        (e.phrase.priority.map Int.ofNat) ∈ calls
  tags :
    ∀ t ∈ r.tags, ∃ priority,
      Call.addTag t.name t.blueprint priority ∈ calls ∧ AsRequested priority t.priority

end Registration

/-- Priorities are taken as they are asked for. -/
theorem checkPriority_ok
    {priority : Int} {n : Nat}
    (h : checkPriority priority = .ok n) :
    Int.ofNat n = priority := by
  unfold checkPriority at h
  split at h
  · cases h
  · cases h
    exact Int.toNat_of_nonneg (by omega)

/-- A declaration that is put into its registration
is as it was made up, but for its priority. -/
theorem Draft.conclude_ok [Phrased α] [Declarable H α]
    {d : Draft H α} {priority : Option Int} {r : Registration H}
    (h : d.conclude priority = .ok r) :
    ∃ n? : Option Nat,
      n?.map Int.ofNat = priority ∧
        r = Declarable.declare d.registration
          (n?.elim d.pending (Phrased.setPriority d.pending)) := by
  cases priority with
  | none =>
      cases h
      exact ⟨none, rfl, rfl⟩
  | some priority =>
      rw [conclude, registerWithPriority, withPriority] at h
      cases hcheck : checkPriority priority with
      | error e =>
          rw [hcheck] at h
          cases h
      | ok n =>
          rw [hcheck] at h
          cases h
          exact ⟨some n, congrArg some (checkPriority_ok hcheck), rfl⟩

theorem addTag_ok
    {r r' : Registration H} {name : String} {blueprint : TagBlueprint}
    {priority : Option Int}
    (h : (Call.addTag name blueprint priority).run r = .ok r') :
    ∃ n : Nat,
      AsRequested priority n ∧
        r' = Declarable.declare r (PendingTag.mk name blueprint n) := by
  cases priority with
  | none =>
      cases h
      exact ⟨Pattern.textRank, Nat.le_refl _, rfl⟩
  | some priority =>
      rw [Call.run, Registration.addTagWithPriority] at h
      cases hcheck : checkPriority priority with
      | error e =>
          rw [hcheck] at h
          cases h
      | ok n =>
          rw [hcheck] at h
          cases h
          exact ⟨n, (checkPriority_ok hcheck).symm, rfl⟩

namespace Registration

variable {calls : List (Call H)} {r r' : Registration H} {call : Call H}

theorem DeclaredBy.run
    (h : r.DeclaredBy calls)
    (hcall : call ∈ calls)
    (hrun : call.run r = .ok r') :
    r'.DeclaredBy calls := by
  cases call with
  | addType d =>
      cases hrun
      exact ⟨h.expressions, h.effects, h.sections, h.events, h.tags⟩
  | addConverter d =>
      cases hrun
      exact ⟨h.expressions, h.effects, h.sections, h.events, h.tags⟩
  | addComparator d =>
      cases hrun
      exact ⟨h.expressions, h.effects, h.sections, h.events, h.tags⟩
  | addExpression e returnType isSingle patterns priority =>
      obtain ⟨n?, rfl, rfl⟩ := Draft.conclude_ok hrun
      refine ⟨List.forall_mem_append.2 ⟨h.expressions, List.forall_mem_singleton.2 ?_⟩,
        h.effects, h.sections, h.events, h.tags⟩
      cases n? <;> exact hcall
  | addEffect e patterns priority =>
      obtain ⟨n?, rfl, rfl⟩ := Draft.conclude_ok hrun
      refine ⟨h.expressions,
        List.forall_mem_append.2 ⟨h.effects, List.forall_mem_singleton.2 ?_⟩,
        h.sections, h.events, h.tags⟩
      cases n? <;> exact hcall
  | addSection e patterns priority =>
      obtain ⟨n?, rfl, rfl⟩ := Draft.conclude_ok hrun
      refine ⟨h.expressions, h.effects,
        List.forall_mem_append.2 ⟨h.sections, List.forall_mem_singleton.2 ?_⟩,
        h.events, h.tags⟩
      cases n? <;> exact hcall
  | addEvent e patterns contexts priority =>
      obtain ⟨n?, rfl, rfl⟩ := Draft.conclude_ok hrun
      refine ⟨h.expressions, h.effects, h.sections,
        List.forall_mem_append.2
          ⟨h.events, List.forall_mem_singleton.2 ⟨patterns, contexts, ?_⟩⟩,
        h.tags⟩
      cases n? <;> exact hcall
  | addContextValue v =>
      cases hrun
      exact ⟨h.expressions, h.effects, h.sections, h.events, h.tags⟩
  | addTag name blueprint priority =>
      obtain ⟨n, hn, rfl⟩ := addTag_ok hrun
      exact ⟨h.expressions, h.effects, h.sections, h.events,
        List.forall_mem_append.2
          ⟨h.tags, List.forall_mem_singleton.2 ⟨priority, hcall, hn⟩⟩⟩

theorem DeclaredBy.perform
    (h : r.DeclaredBy calls)
    (hcall : call ∈ calls) :
    (r.perform call).DeclaredBy calls := by
  unfold Registration.perform
  split
  · rename_i r' hrun
    exact h.run hcall hrun
  · exact h

/-- Everything in a registration was declared by one of the calls that filled it. -/
theorem declaredBy_filled
    (addon : String) (calls : List (Call H)) :
    (filled addon calls).DeclaredBy calls := by
  have hempty : (empty (H := H) addon).DeclaredBy calls := by
    constructor <;> simp [empty]
  exact List.foldlRecOn calls Registration.perform hempty fun r hr call hcall =>
    hr.perform hcall

end Registration

end Catalog
end TriggerScript
