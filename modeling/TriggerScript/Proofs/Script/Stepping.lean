import TriggerScript.Proofs.Script.Interpreter

/-!
# Several steps of a walk

A walk is followed step by step, together with the effects that it runs. What is found
out that way holds for every number of steps that is large enough.
-/

namespace TriggerScript
namespace Script
namespace Trigger

variable {H : Host} {t : Trigger H}

/-- The effect that the next step of a walk runs, if it runs one. -/
def visited
    (t : Trigger H) (w : Walk H) : List (Visit H) :=
  match w.cursor with
  | none => []
  | some c =>
      match t.node? c.id with
      | none => []
      | some node =>
          match node.statement with
          | .ofEffect e => [⟨c.id, e, w.invocation.loopValue?⟩]
          | .ofSection _ => []

/-- The effects that a walk runs in at most so many steps. -/
def visits
    (t : Trigger H) : Nat → Walk H → List (Visit H)
  | 0, _ => []
  | fuel + 1, w =>
      match t.step w with
      | none => []
      | some next => t.visited w ++ t.visits fuel next

/-- The effects that a walk from the first statement on runs in at most so many steps. -/
def walkVisits
    (t : Trigger H) (fuel : Nat) (v : Invocation H) : List (Visit H) :=
  t.visits fuel ⟨t.first.map (⟨·, .enter⟩), v⟩

/-- Whether a walk leads to another one, and which effects it runs on the way. -/
inductive Steps (t : Trigger H) : Walk H → List (Visit H) → Walk H → Prop
  | refl
      (w : Walk H) :
      Steps t w [] w
  | cons
      {w next last : Walk H} {log : List (Visit H)}
      (first : t.step w = some next)
      (others : Steps t next log last) :
      Steps t w (t.visited w ++ log) last

namespace Steps

theorem trans
    {u v w : Walk H} {before behind : List (Visit H)}
    (huv : Steps t u before v)
    (hvw : Steps t v behind w) :
    Steps t u (before ++ behind) w := by
  induction huv with
  | refl u =>
      exact hvw
  | cons first others ih =>
      rw [List.append_assoc]
      exact .cons first (ih hvw)

theorem ofEffect
    {c : Cursor} {v : Invocation H} {node : Node H} {e : Effect H} {log : List (Visit H)}
    {last : Walk H}
    (hnode : t.node? c.id = some node)
    (hstatement : node.statement = .ofEffect e)
    (h : Steps t (t.stepEffect c.id e v) log last) :
    Steps t ⟨some c, v⟩ (⟨c.id, e, v.loopValue?⟩ :: log) last := by
  have hstep : t.step ⟨some c, v⟩ = some (t.stepEffect c.id e v) := by
    simp [step, hnode, hstatement]
  have hvisited : t.visited ⟨some c, v⟩ = [⟨c.id, e, v.loopValue?⟩] := by
    simp [visited, hnode, hstatement]
  have hcons := Steps.cons hstep h
  rwa [hvisited] at hcons

theorem ofSection
    {c : Cursor} {v : Invocation H} {node : Node H} {s : Section H}
    {log : List (Visit H)}
    {last : Walk H}
    (hnode : t.node? c.id = some node)
    (hstatement : node.statement = .ofSection s)
    (h : Steps t (t.stepSection c node s v) log last) :
    Steps t ⟨some c, v⟩ log last := by
  have hstep : t.step ⟨some c, v⟩ = some (t.stepSection c node s v) := by
    simp [step, hnode, hstatement]
  have hvisited : t.visited ⟨some c, v⟩ = [] := by
    simp [visited, hnode, hstatement]
  have hcons := Steps.cons hstep h
  rwa [hvisited] at hcons

/-- A walk that leads to its end has ended after some
number of steps, however many more it may take. -/
theorem exists_steps
    {w last : Walk H} {log : List (Visit H)}
    (h : Steps t w log last)
    (hend : last.cursor = none) :
    ∃ n, ∀ fuel, n ≤ fuel →
      (∀ taken, t.steps fuel w taken = (taken + n, last)) ∧ t.visits fuel w = log := by
  induction h with
  | refl w =>
      have hstep : t.step w = none := by
        simp [step, hend]
      refine ⟨0, fun fuel _ => ?_⟩
      cases fuel with
      | zero =>
          exact ⟨fun _ => rfl, rfl⟩
      | succ fuel =>
          exact ⟨fun _ => by simp [steps, hstep], by simp [visits, hstep]⟩
  | cons first others ih =>
      obtain ⟨n, hn⟩ := ih hend
      refine ⟨n + 1, fun fuel hfuel => ?_⟩
      obtain ⟨fuel, rfl⟩ := Nat.exists_eq_add_of_lt hfuel
      obtain ⟨hsteps, hvisits⟩ := hn (n + fuel) (Nat.le_add_right n fuel)
      constructor
      · intro taken
        rw [steps, first]
        dsimp only
        rw [hsteps, Nat.add_assoc, Nat.add_comm 1 n]
      · rw [visits, first]
        dsimp only
        rw [hvisits]

end Steps

end Trigger
end Script
end TriggerScript
