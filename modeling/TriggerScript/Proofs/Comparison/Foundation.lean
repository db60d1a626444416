import TriggerScript.Proofs.Comparison.Reversal

/-!
# What comparators rest on

However a comparator is put together, it rests on a registered one or on being the same
value, and on some number of conversions. A search for a pair and one for the exchanged
pair may convert different operands, yet both end in the same stage and at the same
registered comparator, so that what they find rests on the same.
-/

namespace TriggerScript
namespace Comparison

/-- What a comparator rests on. -/
structure Foundation where
  /-- The registered comparator that is applied in
  the end; without one, being the same value. -/
  base : Option ComparatorEntry
  conversions : Nat
  supportsOrdering : Bool

namespace Comparator

/-- The registered comparator that is applied in the end, if there is one. -/
def base? : Comparator → Option ComparatorEntry
  | .registered e => some e
  | .equality => none
  | .inverse base => base.base?
  | .converted _ base _ => base.base?

def foundation
    (c : Comparator) : Foundation :=
  ⟨c.base?, c.conversionCount, c.supportsOrdering⟩

end Comparator

/-- A registered comparator as a foundation. -/
def ComparatorEntry.under
    (e : ComparatorEntry) (conversions : Nat) : Foundation :=
  ⟨some e, conversions, e.supportsOrdering⟩

/-- Two searches that cannot find different things may be made in either order. -/
theorem or_comm_of_agree
    {α : Type} {x y : Option α} {a : α}
    (hx : ∀ u, x = some u → u = a)
    (hy : ∀ v, y = some v → v = a) :
    x.or y = y.or x := by
  cases x with
  | none =>
      simp
  | some u =>
      cases y with
      | none =>
          simp
      | some v =>
          rw [hx u rfl, hy v rfl]

namespace Sources

variable {s : Sources} {a b : TypeId} {e : ComparatorEntry} {side : Side}

theorem foundation_direct?_swap :
    (s.direct? a b e).map Comparator.foundation =
      (s.direct? b a e).map Comparator.foundation := by
  unfold direct?
  cases s.fits e a b <;> cases s.fits e b a <;> rfl

theorem equality?_swap :
    equality? a b = equality? b a := by
  unfold equality?
  by_cases h : a = b
  · rw [h]
  · have h' : ¬b = a := fun h' => h h'.symm
    simp [h, h']

theorem foundation_convertSecond?
    {f : Foundation}
    (h : (s.convertSecond? a b e side).map Comparator.foundation = some f) :
    f = e.under 1 := by
  obtain ⟨c, hc, rfl⟩ := Option.map_eq_some_iff.1 h
  unfold convertSecond? at hc
  split at hc
  · obtain ⟨conversion, -, rfl⟩ := Option.map_eq_some_iff.1 hc
    cases side <;> rfl
  · cases hc

/-- Converting the second operand rests on the same
as converting the first one of the exchanged pair. -/
theorem foundation_convertFirst?_swap :
    (s.convertFirst? a b e side).map Comparator.foundation =
      (s.convertSecond? b a e side).map Comparator.foundation := by
  unfold convertFirst? convertSecond?
  split
  · rw [Option.map_map, Option.map_map]
    cases side <;> rfl
  · rfl

/-- What is found after one conversion. -/
theorem foundation_single?
    {c : Comparator}
    (h : s.single? a b e = some c) :
    c.foundation = e.under 1 := by
  obtain ⟨side, -, hside⟩ := List.exists_of_findSome?_eq_some h
  rcases Option.or_eq_some_iff.1 hside with hsecond | ⟨-, hfirst⟩
  · exact foundation_convertSecond? (congrArg (Option.map Comparator.foundation) hsecond)
  · have hsecond :
        (s.convertSecond? b a e side).map Comparator.foundation = some c.foundation := by
      rw [← foundation_convertFirst?_swap, hfirst]
      rfl
    exact foundation_convertSecond? hsecond

theorem foundation_single?_swap :
    (s.single? a b e).map Comparator.foundation =
      (s.single? b a e).map Comparator.foundation := by
  unfold single?
  rw [List.map_findSome?, List.map_findSome?]
  refine findSome?_congr ?_
  intro side _
  simp only [Function.comp_apply, Option.map_or, foundation_convertFirst?_swap]
  exact or_comm_of_agree
    (fun _ h => foundation_convertSecond? h) (fun _ h => foundation_convertSecond? h)

theorem foundation_convertBoth?
    {f : Foundation}
    (h : (s.convertBoth? a b e side).map Comparator.foundation = some f) :
    f = e.under 2 := by
  obtain ⟨c, hc, rfl⟩ := Option.map_eq_some_iff.1 h
  unfold convertBoth? at hc
  split at hc
  · cases side <;> cases hc <;> rfl
  · cases hc

theorem foundation_convertBoth?_swap :
    (s.convertBoth? a b e side).map Comparator.foundation =
      (s.convertBoth? b a e side.other).map Comparator.foundation := by
  have hother : side.other.other = side := by
    cases side <;> rfl
  unfold convertBoth?
  rw [hother]
  cases s.conversion? a (e.typeAt side) <;> cases s.conversion? b (e.typeAt side.other)
  · rfl
  · rfl
  · rfl
  · cases side <;> rfl

/-- What is found after two conversions. -/
theorem foundation_double?
    {c : Comparator}
    (h : s.double? a b e = some c) :
    c.foundation = e.under 2 := by
  obtain ⟨side, -, hside⟩ := List.exists_of_findSome?_eq_some h
  exact foundation_convertBoth? (congrArg (Option.map Comparator.foundation) hside)

theorem foundation_double?_swap :
    (s.double? a b e).map Comparator.foundation =
      (s.double? b a e).map Comparator.foundation := by
  have hswap : ∀ side : Side,
      (s.convertBoth? a b e side).map Comparator.foundation =
        (s.convertBoth? b a e side.other).map Comparator.foundation :=
    fun _ => foundation_convertBoth?_swap
  unfold double?
  simp only [findSome?_cons_eq_or, List.findSome?_nil, Option.or_none, Option.map_or]
  rw [hswap .first, hswap .second]
  exact or_comm_of_agree
    (fun _ h => foundation_convertBoth? h) (fun _ h => foundation_convertBoth? h)

theorem foundation_convertedEquality?_swap :
    (s.convertedEquality? a b).map Comparator.foundation =
      (s.convertedEquality? b a).map Comparator.foundation := by
  unfold convertedEquality?
  by_cases h : a ≠ TypeId.object ∧ b ≠ TypeId.object
  · rw [if_pos h, if_pos h.symm]
    cases s.conversion? b a <;> cases s.conversion? a b <;> rfl
  · have h' : ¬(b ≠ TypeId.object ∧ a ≠ TypeId.object) := fun h' => h h'.symm
    rw [if_neg h, if_neg h']

theorem foundation_findSome?_swap
    (stage : TypeId → TypeId → ComparatorEntry → Option Comparator)
    (hstage : ∀ e, (stage a b e).map Comparator.foundation =
      (stage b a e).map Comparator.foundation) :
    (s.comparators.findSome? (stage a b)).map Comparator.foundation =
      (s.comparators.findSome? (stage b a)).map Comparator.foundation := by
  rw [List.map_findSome?, List.map_findSome?]
  exact findSome?_congr fun e _ => hstage e

/-- What is found for two types rests on the same
in either order, or nothing is found in either. -/
theorem foundation_resolve_swap :
    (s.resolve a b).map Comparator.foundation =
      (s.resolve b a).map Comparator.foundation := by
  unfold resolve
  simp only [Option.map_or]
  rw [foundation_findSome?_swap s.direct? fun _ => foundation_direct?_swap,
    equality?_swap,
    foundation_findSome?_swap s.single? fun _ => foundation_single?_swap,
    foundation_findSome?_swap s.double? fun _ => foundation_double?_swap,
    foundation_convertedEquality?_swap]

end Sources

end Comparison
end TriggerScript
