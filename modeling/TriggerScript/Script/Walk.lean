import TriggerScript.Script.Trigger

/-!
# Running triggers

A walk goes through a trigger statement by statement. A section becomes active when its
body is entered, and control comes back to it at the end of the body. An effect can send
control back to an active section, which drops all sections inside of that one.
-/

namespace TriggerScript
namespace Script

/-- The statement whose turn it is, and how it is reached. -/
structure Cursor where
  id : StatementId
  entry : Entry
deriving DecidableEq

/-- The state of a walk, which has ended if there is no cursor. -/
structure Walk (H : Host) where
  cursor : Option Cursor
  invocation : Invocation H

namespace Trigger

variable {H : Host}

def place
    (t : Trigger H) (id : StatementId) (node : Node H) : SectionPlace :=
  ⟨id, node.body, t.successor? id⟩

/-- Go to a statement: back to it if it is an active section, or else to its start. -/
def arrive
    (target : StatementId) (v : Invocation H) : Walk H :=
  if v.isActive target then
    ⟨some ⟨target, .resume⟩, v.unwindTo target⟩
  else
    ⟨some ⟨target, .enter⟩, v⟩

def arrive?
    (target : Option StatementId) (v : Invocation H) : Walk H :=
  match target with
  | some target => arrive target v
  | none => ⟨none, v⟩

def stepEffect
    (t : Trigger H) (id : StatementId) (e : Effect H) (v : Invocation H) : Walk H :=
  let (step, store) := e.walk v
  let v := v.withStore store
  match step with
  | .next => arrive? (t.successor? id) v
  | .redirect target skipToNext =>
      ⟨some ⟨target, if skipToNext then .nextIteration else .resume⟩, v.unwindTo target⟩
  | .halt => ⟨none, v⟩

def stepSection
    (t : Trigger H) (c : Cursor) (node : Node H) (s : Section H)
    (v : Invocation H) : Walk H :=
  let (target, store) := s.walk v (t.place c.id node) c.entry
  let v := v.withStore store
  if target.isSome && target = node.body then
    ⟨target.map (⟨·, .enter⟩), if c.entry = .enter then v.push ⟨c.id, s.isLoop⟩ else v⟩
  else
    arrive? target (v.leave c.id)

/-- One step of a walk; there is none once it has ended. -/
def step
    (t : Trigger H) (w : Walk H) : Option (Walk H) :=
  match w.cursor with
  | none => none
  | some c =>
      match t.node? c.id with
      | none => some ⟨none, w.invocation⟩
      | some node =>
          match node.statement with
          | .ofEffect e => some (t.stepEffect c.id e w.invocation)
          | .ofSection s => some (t.stepSection c node s w.invocation)

/-- At most so many steps of a walk, and how many there were. -/
def steps
    (t : Trigger H) : Nat → Walk H → Nat → Nat × Walk H
  | 0, w, taken => (taken, w)
  | fuel + 1, w, taken =>
      match t.step w with
      | none => (taken, w)
      | some w => t.steps fuel w (taken + 1)

/-- A walk from the first statement on, with the number of steps. A walk need not end; it
is cut off after so many steps as `fuel` says. -/
def walk
    (t : Trigger H) (fuel : Nat) (v : Invocation H) : Nat × Walk H :=
  t.steps fuel ⟨t.first.map (⟨·, .enter⟩), v⟩ 0

/-- Fire the trigger; the answer tells whether its event let it run. -/
def run
    (t : Trigger H) (fuel : Nat) (context : Context H) (types : TypeSystem) :
    Bool × Invocation H :=
  let v := Invocation.start context types
  match t.event with
  | none => (true, (t.walk fuel v).2.invocation)
  | some e =>
      let (passes, world) := e.check v
      let v := v.withStore (v.storeWith world)
      if passes then (true, (t.walk fuel v).2.invocation) else (false, v)

end Trigger

end Script
end TriggerScript
