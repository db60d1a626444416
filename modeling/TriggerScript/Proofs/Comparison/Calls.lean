import TriggerScript.Proofs.Comparison.Acceptance

/-!
# Calls of declared functions

Comparing two values comes down to calls of the functions that comparators and converters
were declared with. Here the comparison keeps a record of these calls, in the order in
which they are made. The result is the same as without the record, and a comparator that
accepts its two operands hands to every function what that function was declared for.
-/

namespace TriggerScript
namespace Comparison

open Conversion (Converter DeclaredConverter)

/-- A call of the function of a declaration. -/
inductive Call where
  | compare (e : ComparatorEntry) (a b : Value)
  | convert (c : DeclaredConverter) (v : Value)

/-- A result with the calls that led to it, the first one first. -/
structure Recorded (α : Type) where
  result : α
  calls : List Call

namespace Recorded

variable {α β : Type}

/-- The calls of one computation come before those of what is done with its result. -/
instance : Monad Recorded where
  pure a := ⟨a, []⟩
  bind x f := ⟨(f x.result).result, x.calls ++ (f x.result).calls⟩

@[simp] theorem pure_result
    (a : α) :
    (pure a : Recorded α).result = a := by
  rfl

@[simp] theorem pure_calls
    (a : α) :
    (pure a : Recorded α).calls = [] := by
  rfl

@[simp] theorem bind_result
    (x : Recorded α) (f : α → Recorded β) :
    (x >>= f).result = (f x.result).result := by
  rfl

@[simp] theorem bind_calls
    (x : Recorded α) (f : α → Recorded β) :
    (x >>= f).calls = x.calls ++ (f x.result).calls := by
  rfl

theorem forall_calls_pure
    {P : Call → Prop}
    (a : α) :
    ∀ call ∈ (pure a : Recorded α).calls, P call := by
  intro call hcall
  cases hcall

theorem forall_calls_bind
    {P : Call → Prop} {x : Recorded α} {f : α → Recorded β}
    (hx : ∀ call ∈ x.calls, P call)
    (hf : ∀ call ∈ (f x.result).calls, P call) :
    ∀ call ∈ (x >>= f).calls, P call := by
  rw [bind_calls, List.forall_mem_append]
  exact ⟨hx, hf⟩

end Recorded

/-- Call the function of a registered comparator. -/
def ComparatorEntry.applyRecorded
    (e : ComparatorEntry) (a b : Value) : Recorded Relation :=
  ⟨e.function a b, [.compare e a b]⟩

/-- Call the function of a declared converter. -/
def convertDeclaredRecorded
    (c : DeclaredConverter) (v : Value) : Recorded (Option Value) :=
  ⟨c.convert v, [.convert c v]⟩

/-- Convert a value. The second part of a chain is not called if the first one fails. -/
def convertRecorded : Converter → Value → Recorded (Option Value)
  | .declared c, v => convertDeclaredRecorded c v
  | .chained first second, v => do
      match ← convertDeclaredRecorded first v with
      | some w => convertDeclaredRecorded second w
      | none => return none

/-- An operand after a conversion that it may need. -/
def convertOperandRecorded
    (c : Option Converter) (v : Value) : Recorded (Option Value) :=
  match c with
  | some c => convertRecorded c v
  | none => return some v

/-- Compare two values. The first operand is converted before the second one, and nothing
is called after a conversion that fails. -/
def Comparator.applyRecorded : Comparator → Value → Value → Recorded Relation
  | .registered e, a, b => e.applyRecorded a b
  | .equality, a, b => return Relation.ofBool (a.same b)
  | .inverse base, a, b => return (← base.applyRecorded b a).inverse
  | .converted first base second, a, b => do
      match ← convertOperandRecorded first a with
      | none => return .notEqual
      | some a =>
          match ← convertOperandRecorded second b with
          | none => return .notEqual
          | some b => base.applyRecorded a b

@[simp] theorem convertRecorded_result
    (c : Converter) (v : Value) :
    (convertRecorded c v).result = c.convert v := by
  cases c with
  | declared c =>
      rfl
  | chained first second =>
      have hfirst : (convertDeclaredRecorded first v).result = first.convert v := rfl
      simp only [convertRecorded, Recorded.bind_result, hfirst, Converter.convert]
      cases first.convert v <;> rfl

@[simp] theorem convertOperandRecorded_result
    (c : Option Converter) (v : Value) :
    (convertOperandRecorded c v).result = convertOperand c v := by
  cases c with
  | none =>
      rfl
  | some c =>
      exact convertRecorded_result c v

/-- Keeping a record changes no result. -/
@[simp] theorem applyRecorded_result
    (c : Comparator) (a b : Value) :
    (c.applyRecorded a b).result = c.apply a b := by
  induction c generalizing a b with
  | registered e =>
      rfl
  | equality =>
      rfl
  | inverse base ih =>
      simp [Comparator.applyRecorded, Comparator.apply, ih]
  | converted first base second ih =>
      simp only [Comparator.applyRecorded, Comparator.apply, Recorded.bind_result,
        convertOperandRecorded_result]
      cases convertOperand first a with
      | none =>
          rfl
      | some a =>
          simp only [Recorded.bind_result, convertOperandRecorded_result]
          cases convertOperand second b with
          | none =>
              rfl
          | some b =>
              exact ih a b

/-- The declaration behind a call is registered, and its function is given operands that
stand in for the types that it was declared for. -/
def Call.Proper
    (s : Sources) : Call → Prop
  | .compare e a b =>
      e ∈ s.comparators ∧
        s.types.isAssignable e.first a.typeId = true ∧
        s.types.isAssignable e.second b.typeId = true
  | .convert c v =>
      Converter.declared c ∈ s.converters ∧
        s.types.isAssignable c.source v.typeId = true

/-- All calls that were recorded are proper ones. -/
def Recorded.Proper {α : Type}
    (s : Sources) (x : Recorded α) : Prop :=
  ∀ call ∈ x.calls, call.Proper s

section Proper

variable {s : Sources} {α β : Type}

theorem Recorded.proper_pure
    (a : α) :
    (pure a : Recorded α).Proper s :=
  forall_calls_pure a

theorem Recorded.Proper.bind
    {x : Recorded α} {f : α → Recorded β}
    (hx : x.Proper s)
    (hf : (f x.result).Proper s) :
    (x >>= f).Proper s :=
  forall_calls_bind hx hf

theorem proper_convertDeclaredRecorded
    {c : DeclaredConverter} {v : Value}
    (hmem : Converter.declared c ∈ s.converters)
    (hsource : s.types.isAssignable c.source v.typeId = true) :
    (convertDeclaredRecorded c v).Proper s := by
  intro call hcall
  rw [List.mem_singleton.1 hcall]
  exact ⟨hmem, hsource⟩

/-- What a declared converter results in has its target type. -/
theorem typeId_of_convertDeclared
    {c : DeclaredConverter} {v w : Value}
    (h : c.convert v = some w) :
    w.typeId = c.target := by
  obtain ⟨data, _, rfl⟩ := Option.map_eq_some_iff.1 h
  rfl

theorem typeId_of_convert
    {c : Converter} {v w : Value}
    (h : c.convert v = some w) :
    w.typeId = c.target := by
  cases c with
  | declared c =>
      exact typeId_of_convertDeclared h
  | chained first second =>
      obtain ⟨u, _, hsecond⟩ := Option.bind_eq_some_iff.1 h
      exact typeId_of_convertDeclared hsecond

/-- The parts of a chain are called properly: the
second one gets what the first one leads to. -/
theorem proper_convertRecorded
    (hcoupled : s.Coupled)
    {c : Converter} {v : Value}
    (hmem : c ∈ s.converters)
    (hsource : s.types.isAssignable c.source v.typeId = true) :
    (convertRecorded c v).Proper s := by
  cases c with
  | declared c =>
      exact proper_convertDeclaredRecorded hmem hsource
  | chained first second =>
      obtain ⟨hfirst, hsecond, hfit⟩ := hcoupled first second hmem
      refine (proper_convertDeclaredRecorded hfirst hsource).bind ?_
      have hresult : (convertDeclaredRecorded first v).result = first.convert v := rfl
      rw [hresult]
      cases hconvert : first.convert v with
      | none =>
          exact Recorded.proper_pure none
      | some w =>
          refine proper_convertDeclaredRecorded hsecond ?_
          rw [typeId_of_convertDeclared hconvert]
          exact hfit

theorem proper_convertOperandRecorded
    (hcoupled : s.Coupled)
    {c : Option Converter} {v : Value} {a' : TypeId}
    (h : s.Converts c v.typeId a') :
    (convertOperandRecorded c v).Proper s := by
  cases h with
  | unchanged a =>
      exact Recorded.proper_pure (some v)
  | converted hmem hsource =>
      exact proper_convertRecorded hcoupled hmem hsource

theorem typeId_of_convertOperand
    {c : Option Converter} {v w : Value} {a' : TypeId}
    (h : s.Converts c v.typeId a')
    (hw : convertOperand c v = some w) :
    w.typeId = a' := by
  cases h with
  | unchanged a =>
      cases hw
      rfl
  | converted hmem hsource =>
      exact typeId_of_convert hw

/-- A comparator that accepts two operands only makes proper calls. -/
theorem Sources.Accepts.proper
    (hcoupled : s.Coupled)
    {c : Comparator} {a b : Value}
    (h : s.Accepts c a.typeId b.typeId) :
    (c.applyRecorded a b).Proper s := by
  induction c generalizing a b with
  | registered e =>
      cases h with
      | registered hmem hfirst hsecond =>
          intro call hcall
          rw [List.mem_singleton.1 hcall]
          exact ⟨hmem, hfirst, hsecond⟩
  | equality =>
      exact Recorded.proper_pure _
  | inverse base ih =>
      cases h with
      | inverse hbase =>
          exact (ih hbase).bind (Recorded.proper_pure _)
  | converted first base second ih =>
      cases h with
      | converted hfirst hsecond hbase =>
          refine (proper_convertOperandRecorded hcoupled hfirst).bind ?_
          rw [convertOperandRecorded_result]
          cases ha : convertOperand first a with
          | none =>
              exact Recorded.proper_pure _
          | some x =>
              refine (proper_convertOperandRecorded hcoupled hsecond).bind ?_
              rw [convertOperandRecorded_result]
              cases hb : convertOperand second b with
              | none =>
                  exact Recorded.proper_pure _
              | some y =>
                  refine ih ?_
                  rw [typeId_of_convertOperand hfirst ha,
                    typeId_of_convertOperand hsecond hb]
                  exact hbase

end Proper

end Comparison
end TriggerScript
