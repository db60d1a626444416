import TriggerScript.Proofs.Comparison.Grounded
import TriggerScript.Proofs.Conversion.Choice

/-!
# What comparators accept

A comparator is put together from a registered one by swapping and converting operands.
It accepts operands of two types if every function inside of it is then given operands
that stand in for the types that it was declared for. Every stage of a search builds
comparators, from the conversions that are found for their operands, that accept the two
types that it was asked about, and no type that is registered later changes that.
-/

namespace TriggerScript
namespace Comparison

open Conversion (Converter DeclaredConverter)

namespace Sources

/-- Every chain of two converters is made of declared ones that fit together. -/
def Coupled
    (s : Sources) : Prop :=
  ∀ first second,
    Converter.chained first second ∈ s.converters →
      Converter.declared first ∈ s.converters ∧
      Converter.declared second ∈ s.converters ∧
      s.types.isAssignable second.source first.target = true

/-- An operand of the first type has the second type
once it went through a conversion that it may need. -/
inductive Converts
    (s : Sources) : Option Converter → TypeId → TypeId → Prop
  | unchanged
      (a : TypeId) :
      Converts s none a a
  | converted
      {c : Converter} {a : TypeId}
      (hmem : c ∈ s.converters)
      (hsource : s.types.isAssignable c.source a = true) :
      Converts s (some c) a c.target

/-- Operands of two types are what a comparator expects. -/
inductive Accepts
    (s : Sources) : Comparator → TypeId → TypeId → Prop
  | registered
      {e : ComparatorEntry} {a b : TypeId}
      (hmem : e ∈ s.comparators)
      (hfirst : s.types.isAssignable e.first a = true)
      (hsecond : s.types.isAssignable e.second b = true) :
      Accepts s (.registered e) a b
  | equality
      (a b : TypeId) :
      Accepts s .equality a b
  | inverse
      {base : Comparator} {a b : TypeId}
      (hbase : Accepts s base b a) :
      Accepts s (.inverse base) a b
  | converted
      {first second : Option Converter} {base : Comparator} {a b a' b' : TypeId}
      (hfirst : Converts s first a a')
      (hsecond : Converts s second b b')
      (hbase : Accepts s base a' b') :
      Accepts s (.converted first base second) a b

/-- An operand of the first type has the second type once it went through a conversion
that it may need, and that was found for it. -/
inductive Supplies
    (s : Sources) : Option Converter → TypeId → TypeId → Prop
  | unchanged
      (a : TypeId) :
      Supplies s none a a
  | found
      {c : Converter} {a target : TypeId}
      (hfound : s.conversion? a target = some c) :
      Supplies s (some c) a c.target

/-- How a search puts a comparator together for operands of two types. -/
inductive Builds
    (s : Sources) : Comparator → TypeId → TypeId → Prop
  | registered
      {e : ComparatorEntry} {a b : TypeId}
      (hmem : e ∈ s.comparators)
      (hfirst : s.types.isAssignable e.first a = true)
      (hsecond : s.types.isAssignable e.second b = true) :
      Builds s (.registered e) a b
  | equality
      (a b : TypeId) :
      Builds s .equality a b
  | inverse
      {base : Comparator} {a b : TypeId}
      (hbase : Builds s base b a) :
      Builds s (.inverse base) a b
  | converted
      {first second : Option Converter} {base : Comparator} {a b a' b' : TypeId}
      (hfirst : s.Supplies first a a')
      (hsecond : s.Supplies second b b')
      (hbase : Builds s base a' b') :
      Builds s (.converted first base second) a b

section Extended

variable {s : Sources} {types : Typing.Registry}

theorem Coupled.withTypes
    (h : s.Coupled)
    (hext : s.types.Extends types) :
    (s.withTypes types).Coupled := by
  intro first second hmem
  obtain ⟨hfirst, hsecond, hfit⟩ := h first second hmem
  exact ⟨hfirst, hsecond, Typing.Registry.isAssignable_mono hext hfit⟩

theorem Converts.withTypes
    {c : Option Converter} {a b : TypeId}
    (h : s.Converts c a b)
    (hext : s.types.Extends types) :
    (s.withTypes types).Converts c a b := by
  cases h with
  | unchanged a =>
      exact .unchanged a
  | converted hmem hsource =>
      exact .converted hmem (Typing.Registry.isAssignable_mono hext hsource)

theorem Accepts.withTypes
    {c : Comparator} {a b : TypeId}
    (h : s.Accepts c a b)
    (hext : s.types.Extends types) :
    (s.withTypes types).Accepts c a b := by
  induction h with
  | registered hmem hfirst hsecond =>
      exact .registered hmem
        (Typing.Registry.isAssignable_mono hext hfirst)
        (Typing.Registry.isAssignable_mono hext hsecond)
  | equality a b =>
      exact .equality a b
  | inverse hbase ih =>
      exact .inverse ih
  | converted hfirst hsecond hbase ih =>
      exact .converted (hfirst.withTypes hext) (hsecond.withTypes hext) ih

end Extended

section Stages

variable {s : Sources} {a b : TypeId} {e : ComparatorEntry}
  {side : Side} {c : Comparator}

/-- A conversion is only found between types that its ends stand for. -/
theorem conversion?_spec
    {source target : TypeId} {conversion : Converter}
    (h : s.conversion? source target = some conversion) :
    conversion ∈ s.converters ∧
      s.types.isAssignable conversion.source source = true ∧
      s.types.isAssignable target conversion.target = true := by
  obtain ⟨hmem, -, hserves⟩ := Conversion.Registry.findWhere?_spec h
  exact ⟨hmem, Bool.and_eq_true_iff.1 hserves⟩

/-- What a conversion for one side of a registered
comparator leads to stands for that side. -/
theorem isAssignable_of_conversion?
    {target : TypeId} {conversion : Converter}
    (h : s.conversion? a target = some conversion) :
    s.types.isAssignable target conversion.target = true :=
  (conversion?_spec h).2.2

theorem Supplies.converts
    {conversion : Option Converter}
    (h : s.Supplies conversion a b) :
    s.Converts conversion a b := by
  cases h with
  | unchanged a =>
      exact .unchanged a
  | found hfound =>
      obtain ⟨hmem, hsource, _⟩ := conversion?_spec hfound
      exact .converted hmem hsource

theorem Builds.accepts
    (h : s.Builds c a b) :
    s.Accepts c a b := by
  induction h with
  | registered hmem hfirst hsecond =>
      exact .registered hmem hfirst hsecond
  | equality a b =>
      exact .equality a b
  | inverse hbase ih =>
      exact .inverse ih
  | converted hfirst hsecond hbase ih =>
      exact .converted hfirst.converts hsecond.converts ih

theorem builds_of_direct?
    (hmem : e ∈ s.comparators)
    (h : s.direct? a b e = some c) :
    s.Builds c a b := by
  unfold direct? fits at h
  split at h
  · rename_i hfits
    cases h
    rw [Bool.and_eq_true] at hfits
    exact .registered hmem hfits.1 hfits.2
  · split at h
    · rename_i hfits
      cases h
      rw [Bool.and_eq_true] at hfits
      exact .inverse (.registered hmem hfits.1 hfits.2)
    · cases h

theorem builds_of_convertSecond?
    (hmem : e ∈ s.comparators)
    (h : s.convertSecond? a b e side = some c) :
    s.Builds c a b := by
  unfold convertSecond? at h
  split at h
  · rename_i hfits
    obtain ⟨conversion, hconversion, rfl⟩ := Option.map_eq_some_iff.1 h
    have htarget := isAssignable_of_conversion? hconversion
    cases side with
    | first =>
        exact .converted (.unchanged a) (.found hconversion)
          (.registered hmem hfits htarget)
    | second =>
        exact .inverse (.converted (.found hconversion) (.unchanged a)
          (.registered hmem htarget hfits))
  · cases h

theorem builds_of_convertFirst?
    (hmem : e ∈ s.comparators)
    (h : s.convertFirst? a b e side = some c) :
    s.Builds c a b := by
  unfold convertFirst? at h
  split at h
  · rename_i hfits
    obtain ⟨conversion, hconversion, rfl⟩ := Option.map_eq_some_iff.1 h
    have htarget := isAssignable_of_conversion? hconversion
    cases side with
    | first =>
        exact .inverse (.converted (.unchanged b) (.found hconversion)
          (.registered hmem hfits htarget))
    | second =>
        exact .converted (.found hconversion) (.unchanged b)
          (.registered hmem htarget hfits)
  · cases h

theorem builds_of_single?
    (hmem : e ∈ s.comparators)
    (h : s.single? a b e = some c) :
    s.Builds c a b := by
  obtain ⟨side, _, hside⟩ := List.exists_of_findSome?_eq_some h
  rcases Option.or_eq_some_iff.1 hside with hsecond | ⟨_, hfirst⟩
  · exact builds_of_convertSecond? hmem hsecond
  · exact builds_of_convertFirst? hmem hfirst

theorem builds_of_convertBoth?
    (hmem : e ∈ s.comparators)
    (h : s.convertBoth? a b e side = some c) :
    s.Builds c a b := by
  unfold convertBoth? at h
  split at h
  · rename_i first second hfirst hsecond
    have htargetFirst := isAssignable_of_conversion? hfirst
    have htargetSecond := isAssignable_of_conversion? hsecond
    cases side with
    | first =>
        cases h
        exact .converted (.found hfirst) (.found hsecond)
          (.registered hmem htargetFirst htargetSecond)
    | second =>
        cases h
        exact .inverse (.converted (.found hsecond) (.found hfirst)
          (.registered hmem htargetSecond htargetFirst))
  · cases h

theorem builds_of_double?
    (hmem : e ∈ s.comparators)
    (h : s.double? a b e = some c) :
    s.Builds c a b := by
  obtain ⟨side, _, hside⟩ := List.exists_of_findSome?_eq_some h
  exact builds_of_convertBoth? hmem hside

theorem builds_of_equality?
    (h : equality? a b = some c) :
    s.Builds c a b := by
  unfold equality? at h
  split at h
  · cases h
    exact .equality a b
  · cases h

theorem builds_of_convertedEquality?
    (h : s.convertedEquality? a b = some c) :
    s.Builds c a b := by
  unfold convertedEquality? at h
  split at h
  · rcases Option.or_eq_some_iff.1 h with hsecond | ⟨_, hfirst⟩
    · obtain ⟨conversion, hconversion, rfl⟩ := Option.map_eq_some_iff.1 hsecond
      exact .converted (.unchanged a) (.found hconversion) (.equality _ _)
    · obtain ⟨conversion, hconversion, rfl⟩ := Option.map_eq_some_iff.1 hfirst
      exact .converted (.found hconversion) (.unchanged b) (.equality _ _)
  · cases h

theorem builds_of_findSome?
    {stage : ComparatorEntry → Option Comparator}
    (hstage : ∀ e c, e ∈ s.comparators → stage e = some c → s.Builds c a b)
    (h : s.comparators.findSome? stage = some c) :
    s.Builds c a b := by
  obtain ⟨e, hmem, he⟩ := List.exists_of_findSome?_eq_some h
  exact hstage e c hmem he

/-- Whatever a search finds for two types it has
put together for operands of these types. -/
theorem builds_of_resolve
    (h : s.resolve a b = some c) :
    s.Builds c a b := by
  unfold resolve at h
  rcases Option.or_eq_some_iff.1 h with hdirect | ⟨_, h⟩
  · exact builds_of_findSome? (fun e c => builds_of_direct?) hdirect
  rcases Option.or_eq_some_iff.1 h with hequality | ⟨_, h⟩
  · exact builds_of_equality? hequality
  rcases Option.or_eq_some_iff.1 h with hsingle | ⟨_, h⟩
  · exact builds_of_findSome? (fun e c => builds_of_single?) hsingle
  rcases Option.or_eq_some_iff.1 h with hdouble | ⟨_, hconverted⟩
  · exact builds_of_findSome? (fun e c => builds_of_double?) hdouble
  · exact builds_of_convertedEquality? hconverted

/-- Whatever a search finds for two types accepts operands of these types. -/
theorem accepts_of_resolve
    (h : s.resolve a b = some c) :
    s.Accepts c a b :=
  (builds_of_resolve h).accepts

end Stages

end Sources
end Comparison
end TriggerScript
