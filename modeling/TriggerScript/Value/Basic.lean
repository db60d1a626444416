import TriggerScript.Decimal.Shortest

/-!
# Values

A value is a piece of data stamped with the type that it belongs to. The stamp, and not
the shape of the data, decides how the value is converted and compared.
-/

namespace TriggerScript

/-- The identity of a registered type: its position in the order of registration. -/
structure TypeId where
  raw : Nat
deriving DecidableEq

namespace TypeId

/-- The universal type, which every other type can stand in for. -/
def object : TypeId := ⟨0⟩

def text
    (id : TypeId) : String :=
  "#" ++ toString id.raw

end TypeId

/-- A payload that only an addon can look into. Two handles are equal if they are the
same one, which their names tell. -/
structure Handle where
  name : String
deriving DecidableEq

/-- What a value consists of, apart from its type. -/
inductive Data where
  | boolean (b : Bool)
  | integer (n : Int)
  | float (x : Decimal.Binary64)
  | text (s : String)
  | handle (h : Handle)
deriving DecidableEq

namespace Data

/-- Whether two pieces of data have the same shape and content. A float that is not a
number is not the same as itself. -/
def same : Data → Data → Bool
  | .boolean a, .boolean b => a == b
  | .integer a, .integer b => a == b
  | .float a, .float b => a.same b
  | .text a, .text b => a == b
  | .handle a, .handle b => a == b
  | _, _ => false

/-- The data as text; a handle does not show which one it is. -/
def display : Data → String
  | .boolean b => if b then "true" else "false"
  | .integer n => toString n
  | .float x => x.text
  | .text s => s
  | .handle _ => "Handle(*)"

end Data

/-- A piece of data with its type. -/
structure Value where
  typeId : TypeId
  data : Data
deriving DecidableEq

namespace Value

/-- Whether two values have the same type and the same data. -/
def same
    (a b : Value) : Bool :=
  a.typeId == b.typeId && a.data.same b.data

/-- The value as a boolean, if it is one. -/
def asBool
    (v : Value) : Option Bool :=
  match v.data with
  | .boolean b => some b
  | _ => none

/-- The value as an integer, if it is one. -/
def asInteger
    (v : Value) : Option Int :=
  match v.data with
  | .integer n => some n
  | _ => none

/-- The value as a float, if it is a float or an integer. -/
def asFloat
    (v : Value) : Option Decimal.Binary64 :=
  match v.data with
  | .integer n => some (Decimal.Binary64.ofInt n)
  | .float x => some x
  | _ => none

/-- The value as a text, if it is one. -/
def asText
    (v : Value) : Option String :=
  match v.data with
  | .text s => some s
  | _ => none

/-- The value as a handle, if it is one. -/
def asHandle
    (v : Value) : Option Handle :=
  match v.data with
  | .handle h => some h
  | _ => none

end Value

end TriggerScript
