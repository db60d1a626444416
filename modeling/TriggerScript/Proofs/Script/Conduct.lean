import TriggerScript.Script.ControlFlow
import TriggerScript.Script.Trigger

/-!
# How statements behave

What the elements of control flow can do when it is their turn: where they send control,
and which states of sections they change. An orderly statement keeps to the structure of
its script, and a quiet one leaves the states of sections alone unless it is a loop.
-/

namespace TriggerScript
namespace Script

variable {H : Host}

namespace SectionMemory

/-- Erasing the state of one section leaves those of the others. -/
theorem get?_erase_of_ne
    {id other : StatementId}
    (hne : other ≠ id)
    (m : SectionMemory H) :
    (m.erase id).get? other = m.get? other := by
  unfold get? erase
  induction m with
  | nil =>
      rfl
  | cons entry m ih =>
      obtain ⟨key, state⟩ := entry
      by_cases hkey : key = id
      · have hother : (other == key) = false := by
          rw [hkey]
          exact beq_false_of_ne hne
        rw [List.filter_cons_of_neg (by simp [hkey]), ih, List.lookup_cons, hother]
      · rw [List.filter_cons_of_pos (by simp [hkey]), List.lookup_cons,
          List.lookup_cons, ih]

theorem get?_set_of_ne
    {id other : StatementId}
    (hne : other ≠ id)
    (m : SectionMemory H) (state : SectionState H) :
    (m.set id state).get? other = m.get? other := by
  have hother : (other == id) = false := beq_false_of_ne hne
  rw [← get?_erase_of_ne hne m]
  unfold get? set
  rw [List.lookup_cons, hother]

theorem cursor?_set
    (m : SectionMemory H) (id : StatementId) (cursor : LoopCursor) :
    (m.set id (.loop cursor)).cursor? id = some cursor := by
  simp [cursor?, get?, set]

theorem cursor?_congr
    {m m' : SectionMemory H} {id : StatementId}
    (h : m'.get? id = m.get? id) :
    m'.cursor? id = m.cursor? id := by
  unfold cursor?
  rw [h]

end SectionMemory

section Sections

/-- A loop goes on with its body on one of its values, or is left without a state. -/
theorem walk_loop_cases
    (looped : Option (Expression H)) (v : Invocation H)
    (place : SectionPlace) (entry : Entry) :
    (∃ w, (loop looped).walk v place entry =
        (place.after, ⟨w, v.memory.erase place.id⟩)) ∨
      ∃ w cursor, cursor.isOnValue = true ∧
        (loop looped).walk v place entry =
          (place.body, ⟨w, v.memory.set place.id (.loop cursor)⟩) := by
  cases entry with
  | enter =>
      unfold loop
      dsimp only
      cases looped with
      | none =>
          exact .inl ⟨v.world, rfl⟩
      | some e =>
          dsimp only
          split
          · exact .inl ⟨(e.values v).2, rfl⟩
          · rename_i hgoes
            rw [Bool.or_eq_true, not_or, List.isEmpty_iff] at hgoes
            have hon : LoopCursor.isOnValue ⟨(e.values v).1, 0⟩ = true :=
              decide_eq_true (List.length_pos_iff.2 hgoes.1)
            exact .inr ⟨(e.values v).2, _, hon, rfl⟩
  | resume | nextIteration =>
      unfold loop
      dsimp only
      split
      · rename_i cursor _
        split
        · rename_i hon
          exact .inr ⟨v.world, cursor.next, hon, rfl⟩
        · exact .inl ⟨v.world, rfl⟩
      · exact .inl ⟨v.world, rfl⟩

/-- A condition goes on with its body or is left, and has no state. -/
theorem walk_conditional_cases
    (condition : Option (Expression H)) (v : Invocation H)
    (place : SectionPlace) (entry : Entry) :
    ∃ target w, (target = place.body ∨ target = place.after) ∧
      (conditional condition).walk v place entry = (target, v.storeWith w) := by
  cases entry with
  | enter =>
      unfold conditional
      dsimp only
      split
      · exact ⟨place.body, _, .inl rfl, rfl⟩
      · exact ⟨place.after, _, .inr rfl, rfl⟩
  | resume | nextIteration =>
      exact ⟨place.after, v.world, .inr rfl, rfl⟩

variable {looped : Option (Expression H)} {v : Invocation H}
  {place : SectionPlace} {entry : Entry}

/-- A loop changes no state but its own. -/
theorem get?_walk_loop
    {id : StatementId}
    (hne : id ≠ place.id) :
    ((loop looped).walk v place entry).2.memory.get? id = v.memory.get? id := by
  rcases walk_loop_cases looped v place entry with ⟨w, hwalk⟩ | ⟨w, cursor, _, hwalk⟩
  · rw [hwalk]
    exact SectionMemory.get?_erase_of_ne hne _
  · rw [hwalk]
    exact SectionMemory.get?_set_of_ne hne _ _

/-- A loop that goes on with its body is on one of its values. -/
theorem isOnValue_walk_loop
    {first : StatementId}
    (hafter : place.after ≠ some first)
    (hbody : ((loop looped).walk v place entry).1 = some first) :
    ∃ cursor, ((loop looped).walk v place entry).2.memory.cursor? place.id =
        some cursor ∧
      cursor.isOnValue = true := by
  rcases walk_loop_cases looped v place entry with ⟨w, hwalk⟩ | ⟨w, cursor, hon, hwalk⟩
  · rw [hwalk] at hbody
    exact absurd hbody hafter
  · refine ⟨cursor, ?_, hon⟩
    rw [hwalk]
    exact SectionMemory.cursor?_set _ _ _

end Sections

namespace Statement

/-- Whether a statement keeps to the structure of its script wherever it is run. -/
def Orderly : Statement H → Prop
  | .ofEffect e =>
      ∀ v target skipToNext, (e.walk v).1 = .redirect target skipToNext →
        v.isActive target = true
  | .ofSection s =>
      ∀ v place entry, (s.walk v place entry).1 ∈ [place.body, place.after, none]

/-- A jump to the next iteration leads to a loop that is active. -/
theorem orderly_continueEffect :
    Orderly (.ofEffect continueEffect : Statement H) := by
  intro v target skipToNext hjump
  unfold continueEffect at hjump
  dsimp only at hjump
  cases hloop : v.innermostLoop? with
  | none =>
      rw [hloop] at hjump
      cases hjump
  | some id =>
      rw [hloop] at hjump
      cases hjump
      obtain ⟨s, hs, hid⟩ := Option.map_eq_some_iff.1 hloop
      refine List.any_eq_true.2 ⟨s, List.mem_of_find?_eq_some hs, ?_⟩
      exact beq_iff_eq.2 hid

theorem orderly_loop
    (looped : Option (Expression H)) :
    Orderly (.ofSection (loop looped)) := by
  intro v place entry
  rcases walk_loop_cases looped v place entry with ⟨w, hwalk⟩ | ⟨w, cursor, _, hwalk⟩
  · simp [hwalk]
  · simp [hwalk]

theorem orderly_conditional
    (condition : Option (Expression H)) :
    Orderly (.ofSection (conditional condition)) := by
  intro v place entry
  obtain ⟨target, w, htarget, hwalk⟩ := walk_conditional_cases condition v place entry
  rw [hwalk]
  rcases htarget with rfl | rfl
  · simp
  · simp

/-- Whether a statement is a loop or changes no states, wherever it is run. -/
def Quiet : Statement H → Prop
  | .ofEffect e => ∀ v, (e.walk v).2.memory = v.memory
  | .ofSection s =>
      (∃ looped, s = loop looped) ∨
        ∀ v place entry, (s.walk v place entry).2.memory = v.memory

theorem quiet_continueEffect :
    Quiet (.ofEffect continueEffect : Statement H) := by
  intro v
  unfold continueEffect
  dsimp only
  split <;> rfl

theorem quiet_conditional
    (condition : Option (Expression H)) :
    Quiet (.ofSection (conditional condition)) := by
  refine .inr fun v place entry => ?_
  obtain ⟨target, w, _, hwalk⟩ := walk_conditional_cases condition v place entry
  rw [hwalk]
  rfl

end Statement

end Script
end TriggerScript
