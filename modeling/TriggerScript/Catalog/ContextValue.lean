import TriggerScript.Report.Diagnostic
import TriggerScript.Script.Context

/-!
# Context values

A context value is a named value that a script reads from the context that it fires with.
It belongs to one kind of contexts and to one time relative to the event. Names do not
depend on case.
-/

namespace TriggerScript
namespace Catalog

open Script

/-- The time, relative to the event, of which a value tells. -/
inductive Timeline where
  | past
  | present
  | future
deriving DecidableEq

namespace Timeline

/-- The time of an offset, of which only the sign counts. -/
def ofOffset
    (n : Int) : Timeline :=
  if n < 0 then .past else if 0 < n then .future else .present

/-- The time as an offset of at most one. -/
def offset : Timeline → Int
  | .past => -1
  | .present => 0
  | .future => 1

def name : Timeline → String
  | .past => "Past"
  | .present => "Present"
  | .future => "Future"

end Timeline

/-- How a context value may be written in a script. -/
inductive Usage where
  /-- Only inside of an expression that speaks of the context. -/
  | expressionOnly
  /-- Only by its bare name. -/
  | standaloneOnly
  | both
deriving DecidableEq

namespace Usage

/-- The name of the way, for data that names it. -/
def name : Usage → String
  | .expressionOnly => "expression"
  | .standaloneOnly => "standalone"
  | .both => "both"

def ofName?
    (s : String) : Option Usage :=
  [expressionOnly, standaloneOnly, both].find? fun u => u.name == s

def allowsStandalone : Usage → Bool
  | .expressionOnly => false
  | .standaloneOnly => true
  | .both => true

def allowsExpression : Usage → Bool
  | .expressionOnly => true
  | .standaloneOnly => false
  | .both => true

end Usage

/-- A value that scripts read from contexts of one kind. -/
structure ContextValue (H : Host) where
  context : ContextKind
  name : String
  returnType : TypeId
  isSingle : Bool
  timeline : Timeline
  usage : Usage
  /-- The kinds of contexts whose events must not use the value. -/
  excluded : List ContextKind
  extract : H.Payload → List Data

namespace ContextValue

variable {H : Host}

/-- Whether the value is the one of a kind, a name in lower case, and a time. -/
def matchesLowered
    (v : ContextValue H) (context : ContextKind) (name : String)
    (timeline : Timeline) : Bool :=
  v.context == context && v.timeline == timeline && v.name == name

/-- Whether the value is the one of a kind, a name in any case, and a time. -/
def isNamed
    (v : ContextValue H) (context : ContextKind) (name : String)
    (timeline : Timeline) : Bool :=
  v.matchesLowered context (Text.lower name) timeline

/-- Read the value from a context; contexts of other kinds do not have it. -/
def values
    (v : ContextValue H) (context : Context H) : List Value :=
  if context.kind == v.context then
    (v.extract context.payload).map fun data => ⟨v.returnType, data⟩
  else
    []

/-- Whether a script may use the value if its event handles the given kinds: one of them
has the value, and none of them is excluded. -/
def isAvailable
    (v : ContextValue H) (contexts : List ContextKind) : Bool :=
  contexts.contains v.context && !contexts.any fun kind => v.excluded.contains kind

end ContextValue

/-- All context values, with the positions of the values of each kind. -/
structure ContextValues (H : Host) where
  values : List (ContextValue H)
  positions : List (ContextKind × List Nat)

namespace ContextValues

variable {H : Host}

def empty : ContextValues H := ⟨[], []⟩

def positionsOf
    (vs : ContextValues H) (context : ContextKind) : List Nat :=
  (vs.positions.lookup context).getD []

/-- The first value of a kind, a name in any case, and a time. -/
def find?
    (vs : ContextValues H) (context : ContextKind) (name : String)
    (timeline : Timeline) :
    Option (ContextValue H) :=
  let lowered := Text.lower name
  ((vs.positionsOf context).filterMap fun i => vs.values[i]?).find? fun v =>
    v.matchesLowered context lowered timeline

def addPosition
    (context : ContextKind) (i : Nat) :
    List (ContextKind × List Nat) → List (ContextKind × List Nat)
  | [] => [(context, [i])]
  | (kind, is) :: rest =>
      if context == kind then
        (kind, is ++ [i]) :: rest
      else
        (kind, is) :: addPosition context i rest

/-- The diagnostic of a value that is there already. -/
def alreadyRegistered
    (v : ContextValue H) : Report.Diagnostic :=
  (Report.Diagnostic.error .duplicateContextValue).withMessage
    ("context value `" ++ v.name ++ "` (" ++ v.timeline.name ++
      ") is already registered for `"
      ++ v.context.name ++ "`")

/-- Add a value, with its name in lower case;
there must be none of its kind, name and time. -/
def add
    (vs : ContextValues H) (v : ContextValue H) :
    Except Report.Diagnostic (ContextValues H) :=
  let v := { v with name := Text.lower v.name }
  match vs.find? v.context v.name v.timeline with
  | some _ => .error (alreadyRegistered v)
  | none =>
      .ok ⟨vs.values ++ [v], addPosition v.context vs.values.length vs.positions⟩

/-- The values that a script may use if its event handles the given kinds. -/
def availableFor
    (vs : ContextValues H) (contexts : List ContextKind) : List (ContextValue H) :=
  vs.values.filter fun v => v.isAvailable contexts

end ContextValues

end Catalog
end TriggerScript
