import TriggerScript.Catalog.Core
import TriggerScript.Regex.Acceptance
import TriggerScript.Script.Walk

/-!
# Sessions

A session is a catalog with the core vocabulary in it, to which addons add theirs. It
leaves open in which dialect captures are written; the one that programs run with comes
along.
-/

namespace TriggerScript

open Catalog Script

/-- A catalog that started with the core vocabulary. -/
structure Session (H : Host) where
  catalog : Catalog H

namespace Session

variable {H : Host}

/-- Start a session; diagnostics of the core vocabulary are of no further interest. -/
def start
    [Regex.Dialect]
    (config : Config) : Except RegistrationError (Session H) :=
  match (Catalog.empty config).registerCore with
  | .error e => .error e
  | .ok (_, catalog) => .ok ⟨catalog⟩

def register
    [Regex.Dialect]
    (s : Session H) (r : Registration H) :
    Except RegistrationError (List Report.Diagnostic × Session H) :=
  match s.catalog.register r with
  | .error e => .error e
  | .ok (diagnostics, catalog) => .ok (diagnostics, ⟨catalog⟩)

def compare
    (s : Session H) (a b : Option Value) : Comparison.Relation × Session H :=
  let (relation, types) := s.catalog.types.compare a b
  (relation, ⟨{ s.catalog with types := types }⟩)

/-- Fire a trigger. What it remembers about types is kept. -/
def run
    (s : Session H) (t : Trigger H) (fuel : Nat) (context : Context H) :
    (Bool × Invocation H) × Session H :=
  let r := t.run fuel context s.catalog.types
  (r, ⟨{ s.catalog with types := r.2.world.types }⟩)

end Session

end TriggerScript
