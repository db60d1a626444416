import TriggerScript.Comparison.Resolution

/-!
# Comparing in the other direction

The two directions of a pair of types are resolved by the same stages, and most of what
the stages build is the same comparator read from its two ends. The exceptions are the
places where either operand could be converted: there the search always tries to convert
the second operand before the first, whichever way round the pair is given. What a
reversed search finds is therefore described by `opposite`, which differs from `resolve`
in nothing but these preferences.
-/

namespace TriggerScript
namespace Comparison

@[simp] theorem Relation.inverse_inverse
    (r : Relation) :
    r.inverse.inverse = r := by
  cases r <;> rfl

@[simp] theorem Relation.inverse_ofBool
    (isEqual : Bool) :
    (Relation.ofBool isEqual).inverse = Relation.ofBool isEqual := by
  cases isEqual <;> rfl

theorem notEqual_inverse :
    Relation.inverse .notEqual = .notEqual := by
  rfl

theorem same_comm
    (a b : Value) :
    a.same b = b.same a := by
  have hdata : a.data.same b.data = b.data.same a.data := by
    cases ha : a.data <;> cases hb : b.data <;>
      simp [Data.same, Decimal.Binary64.same, Bool.beq_comm, Bool.and_comm]
  unfold Value.same
  rw [hdata, Bool.beq_comm]

/-- The outcome for two values; where there is no comparator they are not equal. -/
def relate
    (c : Option Comparator) (a b : Value) : Relation :=
  match c with
  | some c => c.apply a b
  | none => .notEqual

/-- The function of a comparator tells the same of two values in either order. -/
def ComparatorEntry.IsSymmetric
    (e : ComparatorEntry) : Prop :=
  ∀ x y, e.function x y = (e.function y x).inverse

/-- The second comparator tells of two values in
exchanged order what the first one tells. -/
def Reverses
    (c d : Comparator) : Prop :=
  ∀ a b, d.apply b a = (c.apply a b).inverse

theorem Reverses.symm
    {c d : Comparator}
    (h : Reverses c d) :
    Reverses d c := by
  intro a b
  rw [h b a, Relation.inverse_inverse]

theorem reverses_inverse
    (c : Comparator) :
    Reverses c (.inverse c) := by
  intro a b
  rfl

theorem inverse_reverses
    (c : Comparator) :
    Reverses (.inverse c) c := by
  exact (reverses_inverse c).symm

theorem equality_reverses :
    Reverses .equality .equality := by
  intro a b
  simp [Comparator.apply, same_comm]

theorem registered_reverses
    {e : ComparatorEntry}
    (h : e.IsSymmetric) :
    Reverses (.registered e) (.registered e) := by
  intro a b
  exact h b a

/-- Being the same value after a conversion of one operand, read from the other end. -/
theorem convertedEquality_reverses
    (c d : Option Conversion.Converter) :
    Reverses (.converted c .equality d) (.converted d .equality c) := by
  intro a b
  simp only [Comparator.apply]
  cases convertOperand c a <;> cases convertOperand d b <;>
    simp [same_comm, notEqual_inverse]

/-- What two searches found is the same, read from two ends. -/
abbrev BothReverse : Option Comparator → Option Comparator → Prop :=
  Option.Rel Reverses

theorem bothReverse_symm
    {x y : Option Comparator}
    (h : BothReverse x y) :
    BothReverse y x := by
  cases h with
  | none =>
      exact Option.Rel.none
  | some h =>
      exact Option.Rel.some h.symm

theorem bothReverse_or
    {x y x' y' : Option Comparator}
    (h : BothReverse x y)
    (h' : BothReverse x' y') :
    BothReverse (x.or x') (y.or y') := by
  cases h with
  | none =>
      simpa using h'
  | some h =>
      exact Option.Rel.some h

theorem findSome?_cons_eq_or
    {α β : Type} (f : α → Option β) (x : α) (l : List α) :
    (x :: l).findSome? f = (f x).or (l.findSome? f) := by
  rw [List.findSome?_cons]
  cases f x <;> rfl

theorem findSome?_congr
    {α β : Type} {f g : α → Option β} {l : List α}
    (h : ∀ x ∈ l, f x = g x) :
    l.findSome? f = l.findSome? g := by
  induction l with
  | nil =>
      rfl
  | cons x l ih =>
      have htail : l.findSome? f = l.findSome? g :=
        ih fun y hy => h y (List.mem_cons_of_mem x hy)
      rw [findSome?_cons_eq_or, findSome?_cons_eq_or, h x List.mem_cons_self, htail]

theorem bothReverse_findSome?
    {α : Type} {l : List α} {f g : α → Option Comparator}
    (h : ∀ x ∈ l, BothReverse (f x) (g x)) :
    BothReverse (l.findSome? f) (l.findSome? g) := by
  induction l with
  | nil =>
      exact Option.Rel.none
  | cons x l ih =>
      have htail : BothReverse (l.findSome? f) (l.findSome? g) :=
        ih fun y hy => h y (List.mem_cons_of_mem x hy)
      rw [findSome?_cons_eq_or, findSome?_cons_eq_or]
      exact bothReverse_or (h x List.mem_cons_self) htail

theorem bothReverse_map
    {α : Type} {f g : α → Comparator}
    (h : ∀ a, Reverses (f a) (g a))
    (x : Option α) :
    BothReverse (x.map f) (x.map g) := by
  cases x with
  | none =>
      exact Option.Rel.none
  | some a =>
      exact Option.Rel.some (h a)

theorem relate_of_bothReverse
    {x y : Option Comparator}
    (h : BothReverse x y)
    (a b : Value) :
    relate y b a = (relate x a b).inverse := by
  cases h with
  | none =>
      rfl
  | some h =>
      exact h a b

namespace Sources

/-- A registered comparator after one conversion, preferably of the first operand. -/
def singleOfFirst?
    (s : Sources) (a b : TypeId) (e : ComparatorEntry) : Option Comparator :=
  [Side.first, Side.second].findSome? fun side =>
    (s.convertFirst? a b e side).or (s.convertSecond? a b e side)

/-- A registered comparator after two conversions,
preferably with its operands swapped. -/
def doubleSwapped?
    (s : Sources) (a b : TypeId) (e : ComparatorEntry) : Option Comparator :=
  [Side.second, Side.first].findSome? fun side => s.convertBoth? a b e side

/-- Being the same value once one operand, preferably the
first one, is converted into the type of the other. -/
def convertedEqualityOfFirst?
    (s : Sources) (a b : TypeId) : Option Comparator :=
  if a ≠ TypeId.object ∧ b ≠ TypeId.object then
    ((s.conversion? a b).map fun c => .converted (some c) .equality none).or
      ((s.conversion? b a).map fun c => .converted none .equality (some c))
  else
    none

/-- The comparator for two types that is found if, wherever either operand could be
converted, the first one is preferred instead of the second. -/
def opposite
    (s : Sources) (a b : TypeId) : Option Comparator :=
  (s.comparators.findSome? (s.direct? a b)).or <|
    (equality? a b).or <|
    (s.comparators.findSome? (s.singleOfFirst? a b)).or <|
    (s.comparators.findSome? (s.doubleSwapped? a b)).or <|
    s.convertedEqualityOfFirst? a b

theorem direct?_reverses
    (s : Sources) (a b : TypeId)
    {e : ComparatorEntry}
    (h : e.IsSymmetric) :
    BothReverse (s.direct? a b e) (s.direct? b a e) := by
  unfold direct?
  cases hab : s.fits e a b <;> cases hba : s.fits e b a
  · exact Option.Rel.none
  · exact Option.Rel.some (inverse_reverses _)
  · exact Option.Rel.some (reverses_inverse _)
  · exact Option.Rel.some (registered_reverses h)

theorem equality?_reverses
    (a b : TypeId) :
    BothReverse (equality? a b) (equality? b a) := by
  unfold equality?
  by_cases h : a = b ∧ a ≠ TypeId.object
  · obtain ⟨rfl, hobject⟩ := h
    simp only [hobject, ne_eq, not_false_eq_true, and_self, if_true]
    exact Option.Rel.some equality_reverses
  · have h' : ¬(b = a ∧ b ≠ TypeId.object) := by
      rintro ⟨rfl, hobject⟩
      exact h ⟨rfl, hobject⟩
    rw [if_neg h, if_neg h']
    exact Option.Rel.none

/-- Converting the second operand is converting the first one of the exchanged pair. -/
theorem convertSecond?_reverses
    (s : Sources) (a b : TypeId) (e : ComparatorEntry) (side : Side) :
    BothReverse (s.convertSecond? a b e side) (s.convertFirst? b a e side) := by
  unfold convertSecond? convertFirst?
  split
  · refine bothReverse_map ?_ _
    intro c
    cases side with
    | first =>
        exact reverses_inverse _
    | second =>
        exact inverse_reverses _
  · exact Option.Rel.none

theorem convertFirst?_reverses
    (s : Sources) (a b : TypeId) (e : ComparatorEntry) (side : Side) :
    BothReverse (s.convertFirst? a b e side) (s.convertSecond? b a e side) := by
  exact bothReverse_symm (convertSecond?_reverses s b a e side)

theorem singleOfFirst?_reverses
    (s : Sources) (a b : TypeId) (e : ComparatorEntry) :
    BothReverse (s.singleOfFirst? a b e) (s.single? b a e) := by
  refine bothReverse_findSome? ?_
  intro side _
  exact bothReverse_or (convertFirst?_reverses s a b e side)
    (convertSecond?_reverses s a b e side)

theorem convertBoth?_reverses
    (s : Sources) (a b : TypeId) (e : ComparatorEntry) (side : Side) :
    BothReverse (s.convertBoth? a b e side) (s.convertBoth? b a e side.other) := by
  have hother : side.other.other = side := by
    cases side <;> rfl
  unfold convertBoth?
  rw [hother]
  cases s.conversion? a (e.typeAt side) <;> cases s.conversion? b (e.typeAt side.other)
  · exact Option.Rel.none
  · exact Option.Rel.none
  · exact Option.Rel.none
  · cases side with
    | first =>
        exact Option.Rel.some (reverses_inverse _)
    | second =>
        exact Option.Rel.some (inverse_reverses _)

theorem doubleSwapped?_reverses
    (s : Sources) (a b : TypeId) (e : ComparatorEntry) :
    BothReverse (s.doubleSwapped? a b e) (s.double? b a e) := by
  have hsecond := convertBoth?_reverses s a b e .second
  have hfirst := convertBoth?_reverses s a b e .first
  unfold doubleSwapped? double?
  rw [findSome?_cons_eq_or, findSome?_cons_eq_or, findSome?_cons_eq_or,
    findSome?_cons_eq_or]
  exact bothReverse_or hsecond (bothReverse_or hfirst Option.Rel.none)

theorem convertedEqualityOfFirst?_reverses
    (s : Sources) (a b : TypeId) :
    BothReverse (s.convertedEqualityOfFirst? a b) (s.convertedEquality? b a) := by
  unfold convertedEqualityOfFirst? convertedEquality?
  by_cases h : a ≠ TypeId.object ∧ b ≠ TypeId.object
  · rw [if_pos h, if_pos h.symm]
    refine bothReverse_or (bothReverse_map ?_ _) (bothReverse_map ?_ _)
    · intro c
      exact convertedEquality_reverses _ _
    · intro c
      exact convertedEquality_reverses _ _
  · have h' : ¬(b ≠ TypeId.object ∧ a ≠ TypeId.object) := fun h' => h h'.symm
    rw [if_neg h, if_neg h']
    exact Option.Rel.none

/-- What is found for a pair in reverse is its opposite, read from the other end. -/
theorem opposite_reverses
    {s : Sources}
    (h : ∀ e ∈ s.comparators, e.IsSymmetric)
    (a b : TypeId) :
    BothReverse (s.opposite a b) (s.resolve b a) := by
  refine bothReverse_or ?_ <| bothReverse_or ?_ <| bothReverse_or ?_ <|
    bothReverse_or ?_ ?_
  · exact bothReverse_findSome? fun e he => direct?_reverses s a b (h e he)
  · exact equality?_reverses a b
  · exact bothReverse_findSome? fun e _ => singleOfFirst?_reverses s a b e
  · exact bothReverse_findSome? fun e _ => doubleSwapped?_reverses s a b e
  · exact convertedEqualityOfFirst?_reverses s a b

/-- No search for the two types leaves it open which operand to convert. -/
structure OneWay
    (s : Sources) (a b : TypeId) : Prop where
  single :
    ∀ e ∈ s.comparators, ∀ side,
      s.convertFirst? a b e side = none ∨ s.convertSecond? a b e side = none
  double :
    ∀ e ∈ s.comparators,
      s.convertBoth? a b e .first = none ∨ s.convertBoth? a b e .second = none
  equality :
    s.conversion? a b = none ∨ s.conversion? b a = none

theorem or_comm_of_eq_none
    {α : Type} {x y : Option α}
    (h : x = none ∨ y = none) :
    x.or y = y.or x := by
  rcases h with rfl | rfl
  · exact Option.or_none.symm
  · exact Option.or_none

/-- Without a choice between two operands there are no preferences to differ in. -/
theorem opposite_eq_resolve
    {s : Sources} {a b : TypeId}
    (h : s.OneWay a b) :
    s.opposite a b = s.resolve a b := by
  have hsingle :
      s.comparators.findSome? (s.singleOfFirst? a b) =
        s.comparators.findSome? (s.single? a b) := by
    refine findSome?_congr ?_
    intro e he
    refine findSome?_congr ?_
    intro side _
    exact or_comm_of_eq_none (h.single e he side)
  have hdouble :
      s.comparators.findSome? (s.doubleSwapped? a b) =
        s.comparators.findSome? (s.double? a b) := by
    refine findSome?_congr ?_
    intro e he
    unfold doubleSwapped? double?
    rw [findSome?_cons_eq_or, findSome?_cons_eq_or, findSome?_cons_eq_or,
      findSome?_cons_eq_or, List.findSome?_nil, Option.or_none, Option.or_none]
    exact or_comm_of_eq_none (h.double e he).symm
  have hequality : s.convertedEqualityOfFirst? a b = s.convertedEquality? a b := by
    unfold convertedEqualityOfFirst? convertedEquality?
    split
    · refine or_comm_of_eq_none ?_
      simpa using h.equality
    · rfl
  unfold opposite resolve
  rw [hsingle, hdouble, hequality]

end Sources

end Comparison
end TriggerScript
