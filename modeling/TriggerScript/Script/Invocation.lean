import TriggerScript.Script.Context

/-!
# Invocations

An invocation is one run of a script. It knows which sections are active, the innermost
first, and keeps a state for sections that need one, such as the loop that has to know
where it is.
-/

namespace TriggerScript
namespace Script

/-- The identity of a statement: its position in its script. -/
structure StatementId where
  raw : Nat
deriving DecidableEq

/-- Where a loop is in the values that it goes through. -/
structure LoopCursor where
  values : List Value
  index : Nat

namespace LoopCursor

def current?
    (c : LoopCursor) : Option Value :=
  c.values[c.index]?

def next
    (c : LoopCursor) : LoopCursor :=
  { c with index := c.index + 1 }

def isOnValue
    (c : LoopCursor) : Bool :=
  c.index < c.values.length

end LoopCursor

/-- The state of a section: that of a loop, or one of the host's own making. -/
inductive SectionState (H : Host) where
  | loop (cursor : LoopCursor)
  | custom (memory : H.Memory)

abbrev SectionMemory (H : Host) := List (StatementId × SectionState H)

namespace SectionMemory

variable {H : Host}

def get?
    (m : SectionMemory H) (id : StatementId) : Option (SectionState H) :=
  m.lookup id

/-- The states without that of one section. -/
def erase
    (m : SectionMemory H) (id : StatementId) : SectionMemory H :=
  m.filter fun entry => entry.1 != id

def set
    (m : SectionMemory H) (id : StatementId) (state : SectionState H) :
    SectionMemory H :=
  (id, state) :: erase m id

/-- The cursor of a section that is a loop with a state. -/
def cursor?
    (m : SectionMemory H) (id : StatementId) : Option LoopCursor :=
  match get? m id with
  | some (.loop cursor) => some cursor
  | _ => none

/-- The state of a section that is of the host's making. -/
def custom?
    (m : SectionMemory H) (id : StatementId) : Option H.Memory :=
  match get? m id with
  | some (.custom memory) => some memory
  | _ => none

end SectionMemory

/-- The part of an invocation that its elements may
change: their whole interface to it, reading aside. -/
structure Store (H : Host) where
  world : World H
  memory : SectionMemory H

/-- A section whose body is running. -/
structure ActiveSection where
  id : StatementId
  isLoop : Bool
deriving DecidableEq

/-- One run of a script. Effects and sections act on it through their interface only:
they read all of it and may change its store. They cannot replace the active sections,
which are up to the walk, nor run another trigger in the same invocation. -/
structure Invocation (H : Host) extends Store H where
  /-- The active sections, the innermost first. -/
  active : List ActiveSection

namespace Invocation

variable {H : Host}

/-- A run that has not started yet. -/
def start
    (context : Context H) (types : TypeSystem) : Invocation H :=
  { world := ⟨context, types⟩
    memory := []
    active := [] }

def withStore
    (v : Invocation H) (store : Store H) : Invocation H :=
  { v with toStore := store }

def storeWith
    (v : Invocation H) (world : World H) : Store H :=
  { v.toStore with world := world }

def activeIds
    (v : Invocation H) : List StatementId :=
  v.active.map ActiveSection.id

def innermostLoop?
    (v : Invocation H) : Option StatementId :=
  (v.active.find? ActiveSection.isLoop).map ActiveSection.id

def isActive
    (v : Invocation H) (id : StatementId) : Bool :=
  v.active.any fun s => s.id == id

/-- The value that the innermost active loop is on. -/
def loopValue?
    (v : Invocation H) : Option Value :=
  match v.innermostLoop? with
  | none => none
  | some id =>
      match v.memory.cursor? id with
      | none => none
      | some cursor => cursor.current?

def push
    (v : Invocation H) (s : ActiveSection) : Invocation H :=
  { v with active := s :: v.active }

/-- Make a section inactive if it is the innermost active one. -/
def leave
    (v : Invocation H) (id : StatementId) : Invocation H :=
  match v.active with
  | s :: rest => if s.id = id then { v with active := rest } else v
  | [] => v

/-- The memory and the active sections once all
sections inside of a given one are dropped. -/
def unwound
    (id : StatementId) :
    List ActiveSection → SectionMemory H → List ActiveSection × SectionMemory H
  | [], memory => ([], memory)
  | s :: rest, memory =>
      if s.id = id then (s :: rest, memory) else unwound id rest (memory.erase s.id)

/-- Drop all active sections inside of a given one, with their states. -/
def unwindTo
    (v : Invocation H) (id : StatementId) : Invocation H :=
  let r := unwound id v.active v.memory
  { v with active := r.1, memory := r.2 }

end Invocation

end Script
end TriggerScript
