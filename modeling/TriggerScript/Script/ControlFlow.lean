import TriggerScript.Script.Element

/-!
# Control flow

The elements that every script can use: the loop over values, the condition, the jump to
the next iteration, a condition as a value, and the value of the innermost loop.
-/

namespace TriggerScript
namespace Script

open Report

variable {H : Host}

/-- The description of an expression that may not have been given. -/
def describeOrMissing
    (e : Option (Expression H)) (debug : Bool) : String :=
  match e with
  | some e => e.describe debug
  | none => "<missing>"

/-- The only expression of an element that takes one. -/
def takeSingle
    (es : List (Expression H)) (element : String) : Except Diagnostic (Expression H) :=
  match es with
  | [e] => .ok e
  | _ =>
      .error ((Diagnostic.error .rejectedElement).withMessage
        ("`" ++ element ++ "` takes one expression, got " ++ toString es.length))

/-- Run the body of a loop once for each value. -/
def loop
    (looped : Option (Expression H)) : Section H where
  describe := fun debug => "loop " ++ describeOrMissing looped debug
  isLoop := true
  walk := fun v place entry =>
    match entry with
    | .enter =>
        let (values, world) :=
          match looped with
          | some e => e.values v
          | none => ([], v.world)
        if values.isEmpty || place.body.isNone then
          (place.after, ⟨world, v.memory.erase place.id⟩)
        else
          (place.body, ⟨world, v.memory.set place.id (.loop ⟨values, 0⟩)⟩)
    | .resume | .nextIteration =>
        match v.memory.cursor? place.id with
        | some cursor =>
            if cursor.next.isOnValue then
              (place.body, ⟨v.world, v.memory.set place.id (.loop cursor.next)⟩)
            else
              (place.after, ⟨v.world, v.memory.erase place.id⟩)
        | none => (place.after, ⟨v.world, v.memory.erase place.id⟩)

def loopBlueprint : Blueprint H (Section H) where
  bare := loop none
  init := fun es _ => (takeSingle es "loop").map fun e => loop (some e)

/-- Whether a condition holds: it has the single value true. -/
def holds
    (condition : Option (Expression H)) (v : Invocation H) : Bool × World H :=
  match condition with
  | none => (false, v.world)
  | some e =>
      let (value, world) := e.single v
      ((value.bind Value.asBool).getD false, world)

/-- Run the body once if a condition holds. -/
def conditional
    (condition : Option (Expression H)) : Section H where
  describe := fun debug => "if " ++ describeOrMissing condition debug
  walk := fun v place entry =>
    match entry with
    | .enter =>
        let (yes, world) := holds condition v
        if yes && place.body.isSome then
          (place.body, v.storeWith world)
        else
          (place.after, v.storeWith world)
    | .resume | .nextIteration => (place.after, v.toStore)

def conditionalBlueprint : Blueprint H (Section H) where
  bare := conditional none
  init := fun es _ => (takeSingle es "if").map fun e => conditional (some e)

/-- Go on with the next iteration of the innermost loop. -/
def continueEffect : Effect H where
  describe := fun _ => "continue"
  execute := fun v => v.toStore
  walk := fun v =>
    match v.innermostLoop? with
    | some target => (.redirect target true, v.toStore)
    | none => (.halt, v.toStore)

/-- The blueprint of a jump, which has to be inside of a loop. -/
def continueBlueprint : Blueprint H (Effect H) where
  bare := continueEffect
  init := fun _ setting =>
    match setting.state.innermostLoop? with
    | some _ => .ok continueEffect
    | none =>
        .error ((Diagnostic.error .continueOutsideLoop).withMessage
          "you can only use `continue` in a loop")

def whether
    (condition : Option (Expression H)) : Expression H where
  describe := fun debug => "whether " ++ describeOrMissing condition debug
  values := fun v =>
    match condition with
    | some e => e.values v
    | none => ([], v.world)

def whetherBlueprint : Blueprint H (Expression H) where
  bare := whether none
  init := fun es _ => (takeSingle es "whether").map fun e => whether (some e)

def loopValue : Expression H where
  describe := fun _ => "loop-value"
  values := fun v => (v.loopValue?.toList, v.world)

/-- The blueprint of the value of a loop, which has to be inside of a loop. -/
def loopValueBlueprint : Blueprint H (Expression H) where
  bare := loopValue
  init := fun _ setting =>
    match setting.state.innermostLoop? with
    | some _ => .ok loopValue
    | none =>
        .error ((Diagnostic.error .rejectedElement).withMessage
          "`loop-value` can only be used in a loop")

end Script
end TriggerScript
