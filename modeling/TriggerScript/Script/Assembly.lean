import TriggerScript.Report.Queue
import TriggerScript.Script.Trigger

/-!
# Putting scripts together

A script is put together statement by statement, in the order of its text. Opening a
section makes its body the place for the statements that follow, until the section is
closed. An element that refuses its expressions is left out with a diagnostic, and a
section with its whole body; a script with such an error is not finished.
-/

namespace TriggerScript
namespace Script

open Report

/-- A script that is being put together. -/
structure Assembly (H : Host) where
  types : TypeSystem
  state : ParserState
  nodes : List (Node H)
  event : Option (Event H)
  first : Option StatementId
  /-- The last statement of each open body, the
  innermost first; the top level comes last. -/
  tails : List (Option StatementId)
  /-- How many sections are open inside of a refused one, which counts too. -/
  refusedDepth : Nat
  queue : Queue

namespace Assembly

variable {H : Host}

def start
    (types : TypeSystem) (limits : Limits) : Assembly H :=
  { types := types
    state := ParserState.initial
    nodes := []
    event := none
    first := none
    tails := [none]
    refusedDepth := 0
    queue := Queue.empty limits }

/-- What an element that is put here is told. -/
def setting
    (a : Assembly H) (info : MatchInfo) : Setting :=
  ⟨a.types, a.state, info⟩

def reporting
    (a : Assembly H) (d : Diagnostic) : Assembly H :=
  { a with queue := a.queue.push d }

/-- Set the event of the script; the answer tells whether it was accepted. -/
def setEvent
    (a : Assembly H) (event : Blueprint H (Event H)) (es : List (Expression H))
    (info : MatchInfo) : Bool × Assembly H :=
  match event.init es (a.setting info) with
  | .ok event => (true, { a with event := some event })
  | .error d => (false, a.reporting d)

/-- Give an expression its own expressions; it is none if it was refused. -/
def expression
    (a : Assembly H) (e : Blueprint H (Expression H)) (es : List (Expression H))
    (info : MatchInfo) : Option (Expression H) × Assembly H :=
  match e.init es (a.setting info) with
  | .ok e => (some e, a)
  | .error d => (none, a.reporting d)

def nextId
    (a : Assembly H) : StatementId :=
  ⟨a.nodes.length⟩

def parent?
    (a : Assembly H) : Option StatementId :=
  a.state.innermost?.map OpenSection.id

def tail?
    (a : Assembly H) : Option StatementId :=
  a.tails.head?.join

/-- Put a statement at the end of the innermost open body. -/
def append
    (a : Assembly H) (statement : Statement H) : Assembly H :=
  let id := a.nextId
  let linked :=
    match a.tail?, a.parent? with
    | some previous, _ => a.nodes.modify previous.raw fun n => { n with next := some id }
    | none, some parent => a.nodes.modify parent.raw fun n => { n with body := some id }
    | none, none => a.nodes
  { a with
    nodes := linked ++ [⟨statement, none, a.parent?, none⟩]
    first := if a.tail?.isNone && a.parent?.isNone then some id else a.first
    tails := some id :: a.tails.tail }

/-- Put an effect into the innermost open body;
the answer tells whether it was accepted. -/
def effect
    (a : Assembly H) (e : Blueprint H (Effect H)) (es : List (Expression H))
    (info : MatchInfo) : Bool × Assembly H :=
  if 0 < a.refusedDepth then
    (false, a)
  else
    match e.init es (a.setting info) with
    | .ok e => (true, a.append (.ofEffect e))
    | .error d => (false, a.reporting d)

/-- Put a section into the innermost open body and open
its own; the answer tells whether it was accepted. -/
def openSection
    (a : Assembly H) (s : Blueprint H (Section H)) (es : List (Expression H))
    (info : MatchInfo) : Bool × Assembly H :=
  if 0 < a.refusedDepth then
    (false, { a with refusedDepth := a.refusedDepth + 1 })
  else
    match s.init es (a.setting info) with
    | .error d => (false, { a.reporting d with refusedDepth := 1 })
    | .ok s =>
        let opened : OpenSection := ⟨a.nextId, s.isLoop, s.describe false⟩
        let b := a.append (.ofSection s)
        (true,
          { b with
            state := ⟨opened :: b.state.sections⟩
            tails := none :: b.tails })

def closeSection
    (a : Assembly H) : Assembly H :=
  if 0 < a.refusedDepth then
    { a with refusedDepth := a.refusedDepth - 1 }
  else
    match a.state.sections with
    | _ :: outer => { a with state := ⟨outer⟩, tails := a.tails.tail }
    | [] =>
        a.reporting ((Diagnostic.error .unopenedSection).withMessage
          "a section was closed, but none is open")

/-- Finish the script, closing what is open; it is refused if there was any error. -/
def build
    (a : Assembly H) : Except (List Diagnostic) (Trigger H) :=
  if a.queue.hasErrors then
    .error a.queue.flush.1
  else
    .ok ⟨a.event, a.nodes, a.first⟩

end Assembly

end Script
end TriggerScript
