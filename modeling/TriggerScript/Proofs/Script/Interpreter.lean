import TriggerScript.Proofs.Script.Block
import TriggerScript.Proofs.Script.Scope

/-!
# Interpreting nested scripts

What a script does, by recursion on its nesting: statements run one after the other, a
condition runs its body if it holds, a loop runs its body once for each of its values,
and a jump ends the rest of the body of the innermost loop, which then goes on with its
next value.
-/

namespace TriggerScript
namespace Script

variable {H : Host}

/-- An effect that was run, and the value that the innermost loop was on. -/
structure Visit (H : Host) where
  id : StatementId
  effect : Effect H
  loopValue : Option Value

/-- How a block ends: behind its last statement, or with a jump. -/
inductive Outcome where
  | ended
  | jumped
deriving DecidableEq

/-- What comes of a block: how it ends, the world
behind it, and the effects that were run. -/
structure Pass (H : Host) where
  outcome : Outcome
  world : World H
  visits : List (Visit H)

namespace Pass

def behind
    (before : List (Visit H)) (p : Pass H) : Pass H :=
  { p with visits := before ++ p.visits }

/-- One pass and, unless it ends with a jump, another one behind it. -/
def andThen
    (p : Pass H) (next : World H → Pass H) : Pass H :=
  match p.outcome with
  | .ended => (next p.world).behind p.visits
  | .jumped => p

/-- A pass whose jumps lead to its own end. -/
def caught
    (p : Pass H) : Pass H :=
  { p with outcome := .ended }

end Pass

/-- Run a body once for each of several places in the values
of a loop; a jump only ends the pass that it is in. -/
def eachPass
    (body : LoopCursor → World H → Pass H) (values : List Value) :
    List Nat → World H → Pass H
  | [], w => ⟨.ended, w, []⟩
  | i :: indices, w => (body ⟨values, i⟩ w).caught.andThen (eachPass body values indices)

/-- Run a block inside of a scope. -/
def Block.run : Block H → Scope → World H → Pass H
  | .done, _, w => ⟨.ended, w, []⟩
  | .effect id e rest, scope, w =>
      (rest.run scope (e.execute (scope.invocation w)).world).behind
        [⟨id, e, scope.loopValue?⟩]
  | .jump id _, scope, w => ⟨.jumped, w, [⟨id, continueEffect, scope.loopValue?⟩]⟩
  | .control id .conditional e body rest, scope, w =>
      let (value, w) := e.single (scope.invocation w)
      if value.bind Value.asBool = some true then
        (body.run (⟨id, none⟩ :: scope) w).andThen (rest.run scope)
      else
        rest.run scope w
  | .control id .loop e body rest, scope, w =>
      let (values, w) := e.values (scope.invocation w)
      (eachPass (fun cursor => body.run (⟨id, some cursor⟩ :: scope)) values
        (List.range values.length) w).andThen (rest.run scope)

/-- A loop always ends behind its last value. -/
theorem eachPass_outcome
    (body : LoopCursor → World H → Pass H) (values : List Value) (indices : List Nat)
    (w : World H) :
    (eachPass body values indices w).outcome = .ended := by
  induction indices generalizing w with
  | nil =>
      rfl
  | cons i indices ih =>
      exact ih _

/-- Going through values with an empty body does nothing. -/
theorem eachPass_done
    (frame : LoopCursor → Scope) (values : List Value)
    (indices : List Nat) (w : World H) :
    eachPass (fun cursor => Block.run .done (frame cursor)) values indices w =
      ⟨.ended, w, []⟩ := by
  induction indices with
  | nil =>
      rfl
  | cons i indices ih =>
      rw [eachPass]
      exact congrArg (Pass.behind []) ih

/-- Without a loop around it, a proper block ends behind its last statement. -/
theorem Block.Proper.outcome_run
    {block : Block H} {n : Nat}
    (h : block.Proper false n)
    (scope : Scope) (w : World H) :
    (block.run scope w).outcome = .ended := by
  induction block generalizing n scope w with
  | done =>
      rfl
  | effect id e rest ih =>
      exact ih h.2.2 _ _
  | jump id rest ih =>
      cases h.2.1
  | control id c e body rest ihBody ihRest =>
      obtain ⟨rfl, hbody, hrest⟩ := h
      cases c with
      | loop =>
          rw [Block.run]
          simp only [Pass.andThen, eachPass_outcome]
          exact ihRest hrest _ _
      | conditional =>
          rw [Block.run]
          dsimp only
          split
          · rw [Pass.andThen, ihBody hbody]
            exact ihRest hrest _ _
          · exact ihRest hrest _ _

end Script
end TriggerScript
