import TriggerScript.Script.Element

/-!
# Triggers

A trigger is a finished script: its statements in the order in which they were put
together, each linked to the next one at its level, to the section around it and, for
sections, to the first statement of the body.
-/

namespace TriggerScript
namespace Script

/-- A statement of a script. -/
inductive Statement (H : Host) where
  | ofEffect (e : Effect H)
  | ofSection (s : Section H)

/-- A statement with its links. -/
structure Node (H : Host) where
  statement : Statement H
  /-- The next statement at the same level. -/
  next : Option StatementId
  /-- The section around the statement. -/
  parent : Option StatementId
  /-- The first statement of the body. -/
  body : Option StatementId

/-- A finished script. -/
structure Trigger (H : Host) where
  event : Option (Event H)
  nodes : List (Node H)
  first : Option StatementId

namespace Trigger

variable {H : Host}

def size
    (t : Trigger H) : Nat :=
  t.nodes.length

def node?
    (t : Trigger H) (id : StatementId) : Option (Node H) :=
  t.nodes[id.raw]?

/-- What follows a statement: the next one, or the
section around it after the last one. -/
def successor?
    (t : Trigger H) (id : StatementId) : Option StatementId :=
  match t.node? id with
  | some node => node.next.or node.parent
  | none => none

def parent?
    (t : Trigger H) (id : StatementId) : Option StatementId :=
  (t.node? id).bind Node.parent

def isLoop
    (t : Trigger H) (id : StatementId) : Bool :=
  match t.node? id with
  | some node =>
      match node.statement with
      | .ofSection s => s.isLoop
      | .ofEffect _ => false
  | none => false

/-- A line of a description, indented by its level. -/
def line
    (level : Nat) (text : String) : String :=
  String.ofList (List.replicate (4 * level) ' ') ++ text ++ "\n"

/-- The description of a statement and all that follow it at
its level, with their bodies. Links only lead forward, so
that as many rounds as there are statements are enough. -/
def describeFrom
    (t : Trigger H) : Nat → Option StatementId → Nat → String
  | 0, _, _ => ""
  | _ + 1, none, _ => ""
  | fuel + 1, some id, level =>
      match t.node? id with
      | none => ""
      | some node =>
          let own :=
            match node.statement with
            | .ofEffect e => line level (e.describe false)
            | .ofSection s =>
                line level (s.describe false ++ ":")
                  ++ t.describeFrom fuel node.body (level + 1)
          own ++ t.describeFrom fuel node.next level

/-- The script in words, one statement a line, bodies indented. -/
def describe
    (t : Trigger H) : String :=
  match t.event with
  | some e =>
      line 0 ("on " ++ e.describe false ++ ":") ++ t.describeFrom (t.size + 1) t.first 1
  | none => t.describeFrom (t.size + 1) t.first 0

end Trigger

end Script
end TriggerScript
