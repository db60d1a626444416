import TriggerScript.Conversion.Standard
import TriggerScript.Proofs.Comparison.Calls
import TriggerScript.Proofs.Comparison.Foundation
import TriggerScript.Proofs.TypeSystem.Reversal

/-!
# Being the same value after a conversion

Where no registered comparator can be used, the last stage of a search converts one of
two operands into the type of the other. What comes out of a conversion has the type that
its converter leads to, which may be a subtype of the type that was asked for, and values
of different types are never the same. So the data of the two operands only counts if the
converter leads to exactly the type of the other operand.
-/

namespace TriggerScript

open Typing Conversion

namespace Comparison

/-- One of two operands. -/
def Side.pick {α : Type}
    (side : Side) (a b : α) : α :=
  match side with
  | .first => a
  | .second => b

theorem Side.pick_typeId
    (side : Side) (a b : Value) :
    side.pick a.typeId b.typeId = (side.pick a b).typeId := by
  cases side <;> rfl

/-- Being the same value once the operand on one side is converted. -/
def Comparator.equalityAfter
    (c : Converter) : Side → Comparator
  | .first => .converted (some c) .equality none
  | .second => .converted none .equality (some c)

theorem Relation.ofBool_eq_equal_iff
    {isEqual : Bool} :
    Relation.ofBool isEqual = .equal ↔ isEqual = true := by
  cases isEqual <;> simp [Relation.ofBool]

theorem apply_equalityAfter_eq_equal_iff
    (c : Converter) (side : Side) (a b : Value) :
    (Comparator.equalityAfter c side).apply a b = .equal ↔
      ∃ w, c.convert (side.pick a b) = some w ∧ w.same (side.other.pick a b) = true := by
  cases side with
  | first =>
      cases h : c.convert a <;>
        simp [Comparator.equalityAfter, Comparator.apply, convertOperand,
          Side.pick, Side.other, h, Relation.ofBool_eq_equal_iff]
  | second =>
      cases h : c.convert b <;>
        simp [Comparator.equalityAfter, Comparator.apply, convertOperand,
          Side.pick, Side.other, h, Relation.ofBool_eq_equal_iff, same_comm a]

/-- What a converter yields is the same as a value if it
leads to the type of that value and yields its data. -/
theorem same_of_convert_iff
    {c : Converter} {v w : Value}
    (h : c.convert v = some w) (u : Value) :
    w.same u = true ↔ c.target = u.typeId ∧ w.data.same u.data = true := by
  rw [← typeId_of_convert h, Value.same, Bool.and_eq_true, beq_iff_eq]

namespace Sources

/-- A search for two types gets to its last stage, and the operand on the given side is
converted: the second one if there is a converter for it, and otherwise the first one. -/
structure LastStage
    (s : Sources) (a b : TypeId) (side : Side) (c : Converter) : Prop where
  no_direct : s.comparators.findSome? (s.direct? a b) = none
  no_equality : equality? a b = none
  no_single : s.comparators.findSome? (s.single? a b) = none
  no_double : s.comparators.findSome? (s.double? a b) = none
  first_ne : a ≠ TypeId.object
  second_ne : b ≠ TypeId.object
  found : s.conversion? (side.pick a b) (side.other.pick a b) = some c
  preferred : side = .first → s.conversion? b a = none

section LastStage

variable {s : Sources} {a b : TypeId} {e : ComparatorEntry} {c : Converter} {side : Side}

theorem direct?_ne_equalityAfter :
    s.direct? a b e ≠ some (.equalityAfter c side) := by
  unfold direct?
  cases side <;> split_ifs <;> simp [Comparator.equalityAfter]

theorem equality?_ne_equalityAfter :
    equality? a b ≠ some (.equalityAfter c side) := by
  unfold equality?
  cases side <;> split_ifs <;> simp [Comparator.equalityAfter]

/-- What rests on a registered comparator is not a mere comparison of values. -/
theorem foundation_equalityAfter_ne
    {conversions : Nat} :
    (Comparator.equalityAfter c side).foundation ≠ e.under conversions := by
  intro h
  have hbase := congrArg Foundation.base h
  cases side <;> cases hbase

theorem convertedEquality?_eq_equalityAfter_iff :
    s.convertedEquality? a b = some (.equalityAfter c side) ↔
      (a ≠ TypeId.object ∧ b ≠ TypeId.object) ∧
        s.conversion? (side.pick a b) (side.other.pick a b) = some c ∧
        (side = .first → s.conversion? b a = none) := by
  unfold convertedEquality?
  split_ifs with hne
  · cases hsecond : s.conversion? b a <;>
      cases hfirst : s.conversion? a b <;> cases side <;>
      simp [Comparator.equalityAfter, Side.pick, Side.other, hne, hsecond, hfirst]
  · simp [hne]

theorem findSome?_ne_equalityAfter
    {stage : ComparatorEntry → Option Comparator}
    (hstage : ∀ e, stage e ≠ some (.equalityAfter c side)) :
    s.comparators.findSome? stage ≠ some (.equalityAfter c side) := by
  intro h
  obtain ⟨e, -, he⟩ := List.exists_of_findSome?_eq_some h
  exact hstage e he

/-- Values are compared after a conversion exactly
if the search gets to its last stage. -/
theorem resolve_eq_equalityAfter_iff :
    s.resolve a b = some (.equalityAfter c side) ↔ s.LastStage a b side c := by
  constructor
  · intro h
    unfold resolve at h
    rcases Option.or_eq_some_iff.1 h with hdirect | ⟨hdirect, h⟩
    · exact absurd hdirect (findSome?_ne_equalityAfter fun e => direct?_ne_equalityAfter)
    rcases Option.or_eq_some_iff.1 h with hequality | ⟨hequality, h⟩
    · exact absurd hequality equality?_ne_equalityAfter
    rcases Option.or_eq_some_iff.1 h with hsingle | ⟨hsingle, h⟩
    · exact absurd hsingle (findSome?_ne_equalityAfter fun e he =>
        foundation_equalityAfter_ne (foundation_single? he))
    rcases Option.or_eq_some_iff.1 h with hdouble | ⟨hdouble, h⟩
    · exact absurd hdouble (findSome?_ne_equalityAfter fun e he =>
        foundation_equalityAfter_ne (foundation_double? he))
    obtain ⟨⟨hfirst, hsecond⟩, hfound, hpreferred⟩ :=
      convertedEquality?_eq_equalityAfter_iff.1 h
    exact ⟨hdirect, hequality, hsingle, hdouble, hfirst, hsecond, hfound, hpreferred⟩
  · intro h
    have hlast := convertedEquality?_eq_equalityAfter_iff.2
      ⟨⟨h.first_ne, h.second_ne⟩, h.found, h.preferred⟩
    simp [resolve, h.no_direct, h.no_equality, h.no_single, h.no_double, hlast]

end LastStage

end Sources
end Comparison

namespace TypeSystem

open Comparison

theorem comparator_eq_equalityAfter_iff
    {j : Journal} {a b : TypeId} {side : Side} {c : Converter} :
    ((after j).comparator a b).1 = some (.equalityAfter c side) ↔
      (origin a b j).LastStage a b side c := by
  rw [comparator_eq_resolve_origin, Sources.resolve_eq_equalityAfter_iff]

/-- The search for two types got to its last stage exactly if one operand is converted
and then compared as a value. The converter that was chosen serves the operand and what
the other one can be used as, and the two operands are equal exactly if it leads to the
very type of the other one, succeeds, and yields the data of the other one. -/
theorem compare_of_lastStage
    (j : Journal) (a b : Value) (side : Side) (c : Converter) :
    let operand := side.pick a b
    let other := side.other.pick a b
    (((after j).comparator a.typeId b.typeId).1 = some (.equalityAfter c side) ↔
        (origin a.typeId b.typeId j).LastStage a.typeId b.typeId side c) ∧
      ((origin a.typeId b.typeId j).LastStage a.typeId b.typeId side c →
        c ∈ (after j).converters ∧
        (after j).types.isAssignable c.source operand.typeId = true ∧
        (after j).types.isAssignable other.typeId c.target = true ∧
        (((after j).compare (some a) (some b)).1 = .equal ↔
          c.target = other.typeId ∧
            ∃ w, c.convert operand = some w ∧ w.data.same other.data = true)) := by
  intro operand other
  refine ⟨comparator_eq_equalityAfter_iff, ?_⟩
  intro hlast
  obtain ⟨-, hextends, -⟩ := sources_eq_origin_withTypes j a.typeId b.typeId
  have hfound := hlast.found
  rw [Side.pick_typeId, Side.pick_typeId] at hfound
  obtain ⟨hmem, hsource, htarget⟩ := Sources.conversion?_spec hfound
  rw [converters_origin] at hmem
  refine ⟨hmem, Registry.isAssignable_mono hextends hsource,
    Registry.isAssignable_mono hextends htarget, ?_⟩
  rw [compare_eq_relate, comparator_eq_equalityAfter_iff.2 hlast, relate,
    apply_equalityAfter_eq_equal_iff]
  constructor
  · rintro ⟨w, hw, hequal⟩
    obtain ⟨hexact, hdata⟩ := (same_of_convert_iff hw other).1 hequal
    exact ⟨hexact, w, hw, hdata⟩
  · rintro ⟨hexact, w, hw, hdata⟩
    exact ⟨w, hw, (same_of_convert_iff hw other).2 ⟨hexact, hdata⟩⟩

section Names

/-- Names are texts, and numbers are turned into names. -/
def numbersNamed : Journal :=
  [.registerConverter ⟨"number", "name", Standard.toText, Options.none⟩,
   .registerType (TypeDeclaration.plain "number" "number"),
   .registerType { TypeDeclaration.plain "name" "name" with supertype := some "text" },
   .registerType (TypeDeclaration.plain "text" "text")]

def five : Value := ⟨⟨3⟩, .integer 5⟩

/-- What the number five is turned into. -/
def nameOfFive : Value := ⟨⟨2⟩, .text "5"⟩

def textOfFive : Value := ⟨⟨1⟩, .text "5"⟩

/-- There are four types, and both a text and a name can only be compared with a number
in the last stage, where the number five is turned into a name. -/
theorem lastStage_numbersNamed :
    (after numbersNamed).types.size = 4 ∧
      ∀ a ∈ [textOfFive.typeId, nameOfFive.typeId],
        ∃ c,
          (origin a five.typeId numbersNamed).LastStage a five.typeId .second c ∧
            c.convert five = some nameOfFive := by
  -- one evaluation, for the registrations take the longest
  obtain ⟨hsize, hstages⟩ :
      let s := after numbersNamed
      s.types.size = 4 ∧
        ∀ a ∈ [textOfFive.typeId, nameOfFive.typeId],
          s.remembers a five.typeId = false ∧
            s.comparators.findSome? (s.sources.direct? a five.typeId) = none ∧
            Sources.equality? a five.typeId = none ∧
            s.comparators.findSome? (s.sources.single? a five.typeId) = none ∧
            s.comparators.findSome? (s.sources.double? a five.typeId) = none ∧
            a ≠ TypeId.object ∧
            (s.sources.conversion? five.typeId a).bind (fun c => c.convert five) =
              some nameOfFive := by
    decide +kernel
  refine ⟨hsize, ?_⟩
  intro a ha
  obtain ⟨hnew, hdirect, hequality, hsingle, hdouble, hne, hfound⟩ := hstages a ha
  obtain ⟨c, hc, hconvert⟩ := Option.bind_eq_some_iff.1 hfound
  rw [origin_of_not_remembers hnew]
  exact ⟨c, ⟨hdirect, hequality, hsingle, hdouble, hne, by decide, hc, by simp⟩,
    hconvert⟩

/-- The number five is equal to its name. -/
theorem compare_of_lastStage_names :
    ∃ c,
      (origin nameOfFive.typeId five.typeId numbersNamed).LastStage
          nameOfFive.typeId five.typeId .second c ∧
        ((after numbersNamed).comparator nameOfFive.typeId five.typeId).1 =
          some (.equalityAfter c .second) ∧
        c ∈ (after numbersNamed).converters ∧
        (after numbersNamed).types.isAssignable nameOfFive.typeId c.target = true ∧
        c.target = nameOfFive.typeId ∧
        c.convert five = some nameOfFive ∧
        ((after numbersNamed).compare (some nameOfFive) (some five)).1 = .equal := by
  obtain ⟨-, hstages⟩ := lastStage_numbersNamed
  obtain ⟨c, hlast, hconvert⟩ := hstages nameOfFive.typeId (by decide)
  obtain ⟨hcomparator, hstage⟩ :=
    compare_of_lastStage numbersNamed nameOfFive five .second c
  obtain ⟨hmem, -, htarget, hequal⟩ := hstage hlast
  have hexact : c.target = nameOfFive.typeId := (typeId_of_convert hconvert).symm
  exact ⟨c, hlast, hcomparator.2 hlast, hmem, htarget, hexact, hconvert,
    hequal.2 ⟨hexact, nameOfFive, hconvert, by decide⟩⟩

/-- The number five is not equal to the same text that is
no name, though this is the data that it is turned into. -/
theorem not_forall_compare_of_lastStage :
    ¬∀ (j : Journal) (a b : Value) (side : Side) (c : Converter),
        (after j).types.Registered a.typeId →
        (after j).types.Registered b.typeId →
        ((after j).comparator a.typeId b.typeId).1 = some (.equalityAfter c side) →
        (((after j).compare (some a) (some b)).1 = .equal ↔
          ∃ w, c.convert (side.pick a b) = some w ∧
            w.data.same (side.other.pick a b).data = true) := by
  intro h
  obtain ⟨hsize, hstages⟩ := lastStage_numbersNamed
  obtain ⟨c, hlast, hconvert⟩ := hstages textOfFive.typeId (by decide)
  have hcomparator := comparator_eq_equalityAfter_iff.2 hlast
  have htext : (after numbersNamed).types.Registered textOfFive.typeId := by
    rw [Registry.Registered, hsize]
    decide
  have hnumber : (after numbersNamed).types.Registered five.typeId := by
    rw [Registry.Registered, hsize]
    decide
  have hequal := (h numbersNamed textOfFive five .second c htext hnumber hcomparator).2
    ⟨nameOfFive, hconvert, by decide⟩
  rw [compare_eq_relate, hcomparator, relate, apply_equalityAfter_eq_equal_iff] at hequal
  obtain ⟨w, hw, hsame⟩ := hequal
  obtain rfl : nameOfFive = w := Option.some.inj (hconvert.symm.trans hw)
  -- a name is not a text
  revert hsame
  decide

end Names

end TypeSystem
end TriggerScript
