import TriggerScript.Comparison.Relation
import TriggerScript.Value.Basic

/-!
# Common comparisons

Functions for declared comparators that depend on the data alone. Values that cannot be
seen as what is compared are not equal.
-/

namespace TriggerScript
namespace Comparison
namespace Standard

/-- Compare what two values are seen as, if they can be seen so and have an order. -/
def viaViews {α β : Type}
    (viewFirst : Value → Option α) (viewSecond : Value → Option β)
    (order : α → β → Option Ordering) (a b : Value) : Relation :=
  match viewFirst a, viewSecond b with
  | some x, some y => ((order x y).map Relation.ofOrdering).getD .notEqual
  | _, _ => .notEqual

def length?
    (v : Value) : Option Int :=
  v.asText.map fun s => s.length

def orderIntegers
    (m n : Int) : Option Ordering :=
  some (compare m n)

def integers : Value → Value → Relation :=
  viaViews Value.asInteger Value.asInteger orderIntegers

def floats : Value → Value → Relation :=
  viaViews Value.asFloat Value.asFloat Decimal.Binary64.compare?

def texts : Value → Value → Relation :=
  viaViews Value.asText Value.asText fun s t => some (compareOfLessAndEq s t)

def lengths : Value → Value → Relation :=
  viaViews length? length? orderIntegers

/-- Compare an integer with the length of a text. -/
def integerWithLength : Value → Value → Relation :=
  viaViews Value.asInteger length? orderIntegers

def data
    (a b : Value) : Relation :=
  .ofBool (a.data.same b.data)

def values
    (a b : Value) : Relation :=
  .ofBool (a.same b)

def always
    (r : Relation) (_ _ : Value) : Relation :=
  r

end Standard
end Comparison
end TriggerScript
