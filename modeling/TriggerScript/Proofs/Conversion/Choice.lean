import Mathlib.Data.List.Find
import TriggerScript.Proofs.Conversion.Closure
import TriggerScript.Proofs.Typing.Lineage

/-!
# The choice of a converter

Between two types the converter for exactly these types is chosen, or else the earliest
one that serves. What is added to a registry comes behind what is there, so that it is
only chosen where nothing served before, or if it is for exactly the two types.
-/

namespace TriggerScript
namespace Conversion
namespace Registry

variable {r : Registry} {types : Typing.Registry} {a b : TypeId} {c : Converter}

section Searches

variable {accept : Converter → Bool}

theorem findWhere?_eq_or
    (r : Registry) (types : Typing.Registry) (accept : Converter → Bool) (a b : TypeId) :
    r.findWhere? types accept a b =
      ((r.between? a b).filter accept).or
        (List.find? (fun c => accept c && serves types a b c) r) := by
  unfold findWhere?
  cases (r.between? a b).filter accept <;> rfl

theorem serves_of_ends
    (types : Typing.Registry)
    (h : c.ends = (a, b)) :
    serves types a b c = true := by
  obtain ⟨rfl, rfl⟩ := Prod.mk.inj h
  simp [serves, Typing.Registry.isAssignable_self]

/-- Whatever is found is accepted and serves. -/
theorem findWhere?_spec
    (h : r.findWhere? types accept a b = some c) :
    c ∈ r ∧ accept c = true ∧ serves types a b c = true := by
  rw [findWhere?_eq_or] at h
  rcases Option.or_eq_some_iff.1 h with hexact | ⟨-, hfound⟩
  · obtain ⟨hbetween, haccept⟩ := Option.filter_eq_some_iff.1 hexact
    obtain ⟨hmem, hends⟩ := between?_spec hbetween
    exact ⟨hmem, haccept, serves_of_ends types hends⟩
  · have hserves := List.find?_some hfound
    exact ⟨List.mem_of_find?_eq_some hfound, Bool.and_eq_true_iff.1 hserves⟩

/-- Something is found if anything serves that is accepted. -/
theorem isSome_findWhere?_iff :
    (r.findWhere? types accept a b).isSome ↔
      ∃ c ∈ r, accept c = true ∧ serves types a b c = true := by
  constructor
  · intro h
    obtain ⟨c, hc⟩ := Option.isSome_iff_exists.1 h
    exact ⟨c, findWhere?_spec hc⟩
  · rintro ⟨c, hmem, haccept, hserves⟩
    rw [findWhere?_eq_or, Option.isSome_or, Bool.or_eq_true, List.find?_isSome]
    exact Or.inr ⟨c, hmem, by simp [haccept, hserves]⟩

theorem find?_eq_or
    (r : Registry) (types : Typing.Registry) (a b : TypeId) :
    r.find? types a b = (r.between? a b).or (List.find? (serves types a b) r) := by
  rw [find?, findWhere?_eq_or]
  cases r.between? a b <;> rfl

end Searches

/-- Which converter is chosen between two types. -/
inductive Chooses
    (r : Registry) (types : Typing.Registry) (source target : TypeId) :
    Option Converter → Prop
  /-- The converter for exactly these types. -/
  | exactly
      {c : Converter}
      (hmem : c ∈ r)
      (hends : c.ends = (source, target)) :
      Chooses r types source target (some c)
  /-- Without such a converter, the earliest one that serves. -/
  | earliest
      {c : Converter} {before behind : List Converter}
      (hnone : ∀ x ∈ r, x.ends ≠ (source, target))
      (hr : r = before ++ c :: behind)
      (hserves : serves types source target c = true)
      (hbefore : ∀ x ∈ before, serves types source target x = false) :
      Chooses r types source target (some c)
  /-- No converter, if none serves. -/
  | nothing
      (hnone : ∀ x ∈ r, serves types source target x = false) :
      Chooses r types source target none

theorem between?_eq_none_of_ends_ne
    (h : ∀ x ∈ r, x.ends ≠ (a, b)) :
    r.between? a b = none := by
  rw [between?_eq_none_iff, List.mem_map]
  rintro ⟨x, hx, hends⟩
  exact h x hx hends

/-- In a registry with at most one converter between
any two types, what is found is what is chosen. -/
theorem find?_eq_iff_chooses
    (h : r.Unambiguous)
    (found : Option Converter) :
    r.find? types a b = found ↔ r.Chooses types a b found := by
  constructor
  · rintro rfl
    cases hexact : r.between? a b with
    | some c =>
        obtain ⟨hmem, hends⟩ := between?_spec hexact
        rw [find?_of_between? hexact]
        exact .exactly hmem hends
    | none =>
        have hnone : ∀ x ∈ r, x.ends ≠ (a, b) := fun x hx hends =>
          between?_eq_none_iff.1 hexact (List.mem_map.2 ⟨x, hx, hends⟩)
        rw [find?_eq_or, hexact, Option.none_or]
        cases hfound : List.find? (serves types a b) r with
        | some c =>
            obtain ⟨hserves, before, behind, hr, hbefore⟩ :=
              List.find?_eq_some_iff_append.1 hfound
            exact .earliest hnone hr hserves (by simpa using hbefore)
        | none =>
            exact .nothing (by simpa using List.find?_eq_none.1 hfound)
  · intro hchooses
    cases hchooses with
    | exactly hmem hends =>
        obtain ⟨rfl, rfl⟩ := Prod.mk.inj hends
        exact find?_of_between? (h.between?_of_mem hmem) types
    | earliest hnone hr hserves hbefore =>
        rw [find?_eq_or, between?_eq_none_of_ends_ne hnone, Option.none_or,
          List.find?_eq_some_iff_append]
        exact ⟨hserves, _, _, hr, by simpa using hbefore⟩
    | nothing hnone =>
        have hexact : ∀ x ∈ r, x.ends ≠ (a, b) := by
          intro x hx hends
          have hserves := serves_of_ends types hends
          rw [hnone x hx] at hserves
          cases hserves
        rw [find?_eq_or, between?_eq_none_of_ends_ne hexact, Option.none_or,
          List.find?_eq_none]
        simpa using hnone

section Additions

variable {types' : Typing.Registry} {added : List Converter}

theorem serves_of_agree
    (ha : types.Agree types' a)
    (hc : types.Agree types' c.target) :
    serves types' a b c = serves types a b c := by
  rw [serves, serves, ha, hc]

/-- Where nothing is added for exactly two types, and what can be
used as what stays the same for the first of them and for the targets
of the converters, what is added comes behind what was found. -/
theorem find?_append_of_ends_ne
    (ha : types.Agree types' a)
    (htargets : ∀ c ∈ r, types.Agree types' c.target)
    (hadded : ∀ c ∈ added, c.ends ≠ (a, b)) :
    Registry.find? (r ++ added) types' a b =
      (r.find? types a b).or (List.find? (serves types' a b) added) := by
  have hbetween : Registry.between? (r ++ added) a b = r.between? a b := by
    have hnone := between?_eq_none_of_ends_ne hadded
    unfold between? at *
    rw [List.find?_append, hnone, Option.or_none]
  have hold : List.find? (serves types' a b) r = List.find? (serves types a b) r :=
    List.find?_congr fun c hc => serves_of_agree ha (htargets c hc)
  rw [find?_eq_or, find?_eq_or, hbetween, List.find?_append, hold, Option.or_assoc]

end Additions

end Registry

end Conversion
end TriggerScript
