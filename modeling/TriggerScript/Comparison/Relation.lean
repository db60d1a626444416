/-!
# Relations

The outcome of comparing two values. Without an order on the values the only outcomes are
equal and not equal.
-/

namespace TriggerScript
namespace Comparison

/-- How one value stands to another. -/
inductive Relation where
  | equal
  | notEqual
  | smaller
  | greater
deriving DecidableEq

namespace Relation

def all : List Relation := [.equal, .notEqual, .smaller, .greater]

/-- Equal or not. -/
def ofBool
    (isEqual : Bool) : Relation :=
  if isEqual then .equal else .notEqual

def ofOrdering : Ordering → Relation
  | .lt => .smaller
  | .eq => .equal
  | .gt => .greater

def inverse : Relation → Relation
  | .smaller => .greater
  | .greater => .smaller
  | .equal => .equal
  | .notEqual => .notEqual

/-- Whether the outcome answers a query with yes; anything but equal is not equal. -/
def satisfies
    (r query : Relation) : Bool :=
  match query with
  | .notEqual => r != .equal
  | _ => r == query

def isEqual
    (r : Relation) : Bool :=
  r == .equal

/-- The order of the relation; merely being different is none. -/
def toOrdering : Relation → Option Ordering
  | .smaller => some .lt
  | .equal => some .eq
  | .greater => some .gt
  | .notEqual => none

def text : Relation → String
  | .equal => "equal to"
  | .notEqual => "not equal to"
  | .smaller => "smaller than"
  | .greater => "greater than"

/-- The name of the relation, for data that names relations. -/
def name : Relation → String
  | .equal => "equal"
  | .notEqual => "not_equal"
  | .smaller => "smaller"
  | .greater => "greater"

def ofName?
    (s : String) : Option Relation :=
  all.find? fun r => r.name == s

end Relation

end Comparison
end TriggerScript
