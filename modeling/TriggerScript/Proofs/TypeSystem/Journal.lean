import TriggerScript.Proofs.Comparison.Grounded
import TriggerScript.Proofs.TypeSystem.Operations

/-!
# Journals of type systems

A type system is reached by a journal: the list of all calls made on it so far,
registrations as well as queries, the newest first. A refused registration is part of the
journal too; it leaves everything as it was. One call can change a type system in three
ways only: the types are extended, a pair of types is remembered, or converters and
comparators grow and everything that was remembered is forgotten.
-/

namespace TriggerScript
namespace TypeSystem

open Typing Conversion Comparison

/-- A call on a type system. -/
inductive Operation where
  | registerType (d : TypeDeclaration)
  | registerConverter (d : ConverterDeclaration)
  | registerComparator (d : ComparatorDeclaration)
  | deriveChains
  | comparator (a b : TypeId)
  | compare (a b : Option Value)
  | ordering (a b : Value)

namespace Operation

/-- The pair of types whose comparator a call asks for. -/
def pair? : Operation → Option (TypeId × TypeId)
  | .comparator a b => some (a, b)
  | .compare (some a) (some b) => some (a.typeId, b.typeId)
  | .ordering a b => some (a.typeId, b.typeId)
  | _ => none

/-- Whether a call is meant to add something. -/
def isRegistration : Operation → Bool
  | .registerType _ => true
  | .registerConverter _ => true
  | .registerComparator _ => true
  | .deriveChains => true
  | _ => false

end Operation

/-- The type system after a call; a refused one changes nothing. -/
def perform
    (s : TypeSystem) : Operation → TypeSystem
  | .registerType d =>
      match s.registerType d with
      | .ok r => r.2
      | .error _ => s
  | .registerConverter d =>
      match s.registerConverter d with
      | .ok s' => s'
      | .error _ => s
  | .registerComparator d =>
      match s.registerComparator d with
      | .ok s' => s'
      | .error _ => s
  | .deriveChains => s.deriveChains.2
  | .comparator a b => (s.comparator a b).2
  | .compare a b => (s.compare a b).2
  | .ordering a b => (s.ordering a b).2

/-- All calls on a type system, the newest first. -/
abbrev Journal := List Operation

/-- The type system that a journal leads to. -/
def after : Journal → TypeSystem
  | [] => initial
  | op :: earlier => (after earlier).perform op

/-- What a call can change. -/
inductive Change
    (s : TypeSystem) (op : Operation) : TypeSystem → Prop
  /-- The types are extended, if at all; what is remembered stays. -/
  | extended
      (types : Typing.Registry)
      (hext : s.types.Extends types) :
      Change s op { s with sources := { s.sources with types := types } }
  /-- A pair of types is remembered. -/
  | remembered
      (a b : TypeId)
      (hpair : op.pair? = some (a, b))
      (hnew : s.memo.lookup (a, b) = none) :
      Change s op { s with memo := ((a, b), s.sources.resolve a b) :: s.memo }
  /-- Converters and comparators grow, and everything is forgotten. -/
  | renewed
      (converters : Conversion.Registry)
      (comparators : List ComparatorEntry)
      (hgrounded :
        s.sources.Grounded → Sources.Grounded ⟨s.types, converters, comparators⟩) :
      Change s op ⟨⟨s.types, converters, comparators⟩, []⟩

theorem Change.unchanged
    (s : TypeSystem) (op : Operation) :
    Change s op s := by
  exact Change.extended s.types (Registry.Extends.refl _)

/-- Asking for a pair of types changes nothing but what is remembered. -/
theorem Change.ofQuery
    {s : TypeSystem} {op : Operation} {a b : TypeId}
    (h : op.pair? = some (a, b)) :
    Change s op (s.remembering a b) := by
  unfold remembering
  cases hlookup : s.memo.lookup (a, b) with
  | some found =>
      rw [comparator_of_lookup_eq_some hlookup]
      exact Change.unchanged s op
  | none =>
      rw [comparator_of_lookup_eq_none hlookup]
      exact Change.remembered a b h hlookup

/-- Everything that a call can do. -/
theorem change_perform
    (s : TypeSystem) (op : Operation) :
    Change s op (s.perform op) := by
  cases op with
  | registerType d =>
      cases h : s.registerType d with
      | error refusal =>
          simp only [perform, h]
          exact Change.unchanged s _
      | ok r =>
          obtain ⟨id, s'⟩ := r
          obtain ⟨types, hregister, rfl⟩ := registerType_ok h
          simp only [perform, h]
          exact Change.extended types (Registry.extends_of_register_ok hregister)
  | registerConverter d =>
      cases h : s.registerConverter d with
      | error refusal =>
          simp only [perform, h]
          exact Change.unchanged s _
      | ok s' =>
          obtain ⟨c, hsource, htarget, _, rfl⟩ := registerConverter_ok h
          simp only [perform, h]
          refine Change.renewed _ s.comparators ?_
          intro hg
          exact hg.addConverter hsource htarget
  | registerComparator d =>
      cases h : s.registerComparator d with
      | error refusal =>
          simp only [perform, h]
          exact Change.unchanged s _
      | ok s' =>
          obtain ⟨e, hfirst, hsecond, rfl⟩ := registerComparator_ok h
          simp only [perform, h]
          refine Change.renewed s.converters _ ?_
          intro hg
          exact hg.addComparator hfirst hsecond
  | deriveChains =>
      simp only [perform, deriveChains]
      split
      · exact Change.unchanged s _
      · refine Change.renewed _ s.comparators ?_
        intro hg
        exact hg.withChains
  | comparator a b =>
      exact Change.ofQuery rfl
  | compare a b =>
      cases a with
      | none =>
          exact Change.unchanged s _
      | some a =>
          cases b with
          | none =>
              exact Change.unchanged s _
          | some b =>
              simp only [perform, compare_state]
              exact Change.ofQuery rfl
  | ordering a b =>
      simp only [perform, ordering_state]
      exact Change.ofQuery rfl

/-- Converters and comparators stay between registered types. -/
theorem Change.grounded
    {s s' : TypeSystem} {op : Operation}
    (h : Change s op s')
    (hg : s.sources.Grounded) :
    s'.sources.Grounded := by
  cases h with
  | extended types hext =>
      exact hg.withTypes hext
  | remembered a b hpair hnew =>
      exact hg
  | renewed converters comparators hgrounded =>
      exact hgrounded hg

/-- Converters and comparators only ever connect registered types. -/
theorem grounded_after
    (j : Journal) :
    (after j).sources.Grounded := by
  induction j with
  | nil =>
      exact ⟨by simp [after, initial], by simp [after, initial]⟩
  | cons op earlier ih =>
      exact (change_perform (after earlier) op).grounded ih

end TypeSystem
end TriggerScript
