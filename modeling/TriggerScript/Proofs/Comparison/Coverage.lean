import TriggerScript.Proofs.Comparison.Persistence
import TriggerScript.Proofs.Typing.Order

/-!
# Comparators that cover others

A registered comparator covers another one if the declared types of the other one fit it,
in one order or the other. Then so does whatever fits the other one, with or without
conversions: in each stage of a search the covering comparator qualifies for every pair
of types that the covered one qualifies for. As the earliest one that qualifies is taken,
a comparator that is covered by an earlier one is never used.
-/

namespace TriggerScript
namespace Comparison

theorem Side.forall_iff
    {P : Side → Prop} :
    (∀ side, P side) ↔ P .first ∧ P .second := by
  constructor
  · intro h
    exact ⟨h .first, h .second⟩
  · rintro ⟨hfirst, hsecond⟩ side
    cases side with
    | first => exact hfirst
    | second => exact hsecond

namespace Sources

variable {s s' : Sources} {a b : TypeId} {e e' : ComparatorEntry}

/-- Whether the declared types of the second comparator
fit the first one, in one order or the other. -/
def Covers
    (s : Sources) (e e' : ComparatorEntry) : Prop :=
  s.fits e e'.first e'.second = true ∨ s.fits e e'.second e'.first = true

instance
    (s : Sources) (e e' : ComparatorEntry) : Decidable (s.Covers e e') :=
  inferInstanceAs (Decidable (_ ∨ _))

theorem Extends.covers
    (h : s.Extends s')
    (hcovers : s.Covers e e') :
    s'.Covers e e' :=
  hcovers.imp h.fits h.fits

/-- The sides of a covered comparator are below the sides of the covering one, either
each side below the same side or each below the other one. -/
theorem Covers.exists_turn
    (h : s.Covers e e') :
    ∃ turn : Side → Side,
      (∀ side, turn side.other = (turn side).other) ∧
        ∀ side, s.types.Below (e'.typeAt side) (e.typeAt (turn side)) := by
  rcases h with h | h
  · obtain ⟨hfirst, hsecond⟩ := Bool.and_eq_true_iff.1 h
    exact ⟨id, fun _ => rfl, Side.forall_iff.2 ⟨hfirst, hsecond⟩⟩
  · obtain ⟨hfirst, hsecond⟩ := Bool.and_eq_true_iff.1 h
    exact ⟨Side.other, fun _ => rfl, Side.forall_iff.2 ⟨hsecond, hfirst⟩⟩

/-- What can be converted for a type can be converted for every type above it. -/
theorem isSome_conversion?_of_below
    {below above : TypeId}
    (hbelow : s.types.Below below above)
    (h : (s.conversion? a below).isSome) :
    (s.conversion? a above).isSome := by
  rw [isSome_conversion?_iff] at h ⊢
  obtain ⟨c, hc, haccept, hserves⟩ := h
  obtain ⟨hsource, htarget⟩ := Bool.and_eq_true_iff.1 hserves
  have habove : s.types.Below c.target above :=
    Typing.Registry.Below.trans htarget hbelow
  exact ⟨c, hc, haccept, Bool.and_eq_true_iff.2 ⟨hsource, habove⟩⟩

section Stages

variable (h : s.Covers e e')
include h

/-- What fits a covered comparator fits the covering one, in one order or the other. -/
theorem Covers.fits_or
    (hfits : s.fits e' a b = true) :
    s.fits e a b = true ∨ s.fits e b a = true := by
  obtain ⟨hfirst, hsecond⟩ := Bool.and_eq_true_iff.1 hfits
  rcases h with h | h
  · obtain ⟨hfirst', hsecond'⟩ := Bool.and_eq_true_iff.1 h
    have ha : s.types.Below a e.first := Typing.Registry.Below.trans hfirst hfirst'
    have hb : s.types.Below b e.second := Typing.Registry.Below.trans hsecond hsecond'
    exact Or.inl (Bool.and_eq_true_iff.2 ⟨ha, hb⟩)
  · obtain ⟨hfirst', hsecond'⟩ := Bool.and_eq_true_iff.1 h
    have ha : s.types.Below a e.second := Typing.Registry.Below.trans hfirst hsecond'
    have hb : s.types.Below b e.first := Typing.Registry.Below.trans hsecond hfirst'
    exact Or.inr (Bool.and_eq_true_iff.2 ⟨hb, ha⟩)

theorem Covers.isSome_direct?
    (hcovered : (s.direct? a b e').isSome) :
    (s.direct? a b e).isSome := by
  rw [isSome_direct?_iff] at hcovered ⊢
  exact hcovered.elim h.fits_or fun hfits => (h.fits_or hfits).symm

theorem Covers.isSome_single?
    (hcovered : (s.single? a b e').isSome) :
    (s.single? a b e).isSome := by
  obtain ⟨turn, hturn, hbelow⟩ := h.exists_turn
  simp only [single?, List.findSome?_isSome_iff, Option.isSome_or, Bool.or_eq_true,
    isSome_convertSecond?_iff, isSome_convertFirst?_iff] at hcovered ⊢
  obtain ⟨side, -, hcovered⟩ := hcovered
  have hother := hbelow side.other
  rw [hturn] at hother
  -- in the same way if the second operand is converted and if the first one is
  refine ⟨turn side, by cases turn side <;> simp, hcovered.imp ?_ ?_⟩
  · exact And.imp (Typing.Registry.Below.trans · (hbelow side))
      (isSome_conversion?_of_below hother)
  · exact And.imp (Typing.Registry.Below.trans · (hbelow side))
      (isSome_conversion?_of_below hother)

theorem Covers.isSome_double?
    (hcovered : (s.double? a b e').isSome) :
    (s.double? a b e).isSome := by
  obtain ⟨turn, hturn, hbelow⟩ := h.exists_turn
  simp only [double?, List.findSome?_isSome_iff, isSome_convertBoth?_iff] at hcovered ⊢
  obtain ⟨side, -, hfirst, hsecond⟩ := hcovered
  have hother := hbelow side.other
  rw [hturn] at hother
  exact ⟨turn side, by cases turn side <;> simp,
    isSome_conversion?_of_below (hbelow side) hfirst,
    isSome_conversion?_of_below hother hsecond⟩

end Stages

/-- If a comparator that comes earlier qualifies wherever a
given one does, then a search does not end at the given one. -/
theorem base?_findSome?_ne
    {before behind : List ComparatorEntry} {stage : ComparatorEntry → Option Comparator}
    {c : Comparator}
    (hbase : ∀ x c, stage x = some c → c.base? = some x)
    (hmem : e ∈ before)
    (hstage : (stage e').isSome → (stage e).isSome)
    (hnew : e' ∉ before)
    (h : (before ++ e' :: behind).findSome? stage = some c) :
    c.base? ≠ some e' := by
  intro hc
  obtain ⟨x, -, hx⟩ := List.exists_of_findSome?_eq_some h
  have hxe : x = e' := Option.some.inj ((hbase x c hx).symm.trans hc)
  rw [hxe] at hx
  have hbefore : (before.findSome? stage).isSome :=
    List.findSome?_isSome_iff.2 ⟨e, hmem, hstage (by rw [hx]; rfl)⟩
  obtain ⟨c', hc'⟩ := Option.isSome_iff_exists.1 hbefore
  rw [List.findSome?_append, hc', Option.some_or, Option.some.injEq] at h
  obtain ⟨y, hy, hstage'⟩ := List.exists_of_findSome?_eq_some hc'
  have hye : y = e' := Option.some.inj ((hbase y c' hstage').symm.trans (h ▸ hc))
  exact hnew (hye ▸ hy)

theorem base?_direct?
    {c : Comparator}
    (h : s.direct? a b e = some c) :
    c.base? = some e := by
  unfold direct? at h
  split_ifs at h <;> cases h <;> rfl

theorem base?_single?
    {c : Comparator}
    (h : s.single? a b e = some c) :
    c.base? = some e :=
  congrArg Foundation.base (foundation_single? h)

theorem base?_double?
    {c : Comparator}
    (h : s.double? a b e = some c) :
    c.base? = some e :=
  congrArg Foundation.base (foundation_double? h)

/-- No search ends at a comparator that an earlier one covers. -/
theorem base?_resolve_ne
    {before behind : List ComparatorEntry} {c : Comparator}
    (hs : s.comparators = before ++ e' :: behind)
    (hmem : e ∈ before)
    (hcovers : s.Covers e e')
    (hnew : e' ∉ before)
    (h : s.resolve a b = some c) :
    c.base? ≠ some e' := by
  unfold resolve at h
  rw [hs] at h
  rcases Option.or_eq_some_iff.1 h with hdirect | ⟨-, h⟩
  · exact base?_findSome?_ne (fun _ _ => base?_direct?) hmem
      hcovers.isSome_direct? hnew hdirect
  rcases Option.or_eq_some_iff.1 h with hequality | ⟨-, h⟩
  · unfold equality? at hequality
    split_ifs at hequality
    cases hequality
    exact nofun
  rcases Option.or_eq_some_iff.1 h with hsingle | ⟨-, h⟩
  · exact base?_findSome?_ne (fun _ _ => base?_single?) hmem
      hcovers.isSome_single? hnew hsingle
  rcases Option.or_eq_some_iff.1 h with hdouble | ⟨-, hconverted⟩
  · exact base?_findSome?_ne (fun _ _ => base?_double?) hmem
      hcovers.isSome_double? hnew hdouble
  unfold convertedEquality? at hconverted
  split_ifs at hconverted
  rcases Option.or_eq_some_iff.1 hconverted with hsecond | ⟨-, hfirst⟩
  · obtain ⟨_, -, rfl⟩ := Option.map_eq_some_iff.1 hsecond
    exact nofun
  · obtain ⟨_, -, rfl⟩ := Option.map_eq_some_iff.1 hfirst
    exact nofun

/-- A comparator that was registered last is found for
its declared types exactly if no other one covers it. -/
theorem resolve_declared_iff
    {before : List ComparatorEntry}
    (hs : s.comparators = before ++ [e'])
    (hnew : e' ∉ before) :
    s.resolve e'.first e'.second = some (.registered e') ↔
      ∀ e ∈ before, ¬s.Covers e e' := by
  constructor
  · intro h e hmem hcovers
    exact base?_resolve_ne hs hmem hcovers hnew h rfl
  · intro h
    have hnone : before.findSome? (s.direct? e'.first e'.second) = none := by
      rw [List.findSome?_eq_none_iff]
      intro e hmem
      rw [← Option.not_isSome_iff_eq_none, isSome_direct?_iff]
      exact h e hmem
    have hself : s.direct? e'.first e'.second e' = some (.registered e') := by
      simp [direct?, fits, Typing.Registry.isAssignable_self]
    simp [resolve, hs, hnone, hself]

end Sources
end Comparison
end TriggerScript
