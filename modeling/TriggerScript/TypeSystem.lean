import TriggerScript.Comparison.Resolution

/-!
# The type system

Types, converters and comparators together. Which comparator serves two types is
remembered once it has been found out, and forgotten when a converter or a comparator is
added.
-/

namespace TriggerScript

open Typing Conversion Comparison

/-- What was found out for some pairs of types, including that there is no comparator. -/
abbrev Memo := List ((TypeId × TypeId) × Option Comparator)

/-- Types, converters, comparators, and what is remembered of them. -/
structure TypeSystem where
  sources : Comparison.Sources
  memo : Memo

namespace TypeSystem

/-- The type system with nothing but the universal type. -/
def initial : TypeSystem :=
  ⟨⟨Typing.Registry.initial, [], []⟩, []⟩

def types
    (s : TypeSystem) : Typing.Registry :=
  s.sources.types

def converters
    (s : TypeSystem) : Conversion.Registry :=
  s.sources.converters

def comparators
    (s : TypeSystem) : List ComparatorEntry :=
  s.sources.comparators

/-- The identity of the type that a word stands for. -/
def typeId?
    (s : TypeSystem) (word : String) : Option TypeId :=
  s.types.idOf? word

/-- The identity of a type that a declaration needs. -/
def require
    (s : TypeSystem) (role : Role) (word : String) : Except Refusal TypeId :=
  match s.typeId? word with
  | some id => .ok id
  | none => .error (.unknownType role word)

/-- Register a type. What is remembered stays. -/
def registerType
    (s : TypeSystem) (d : TypeDeclaration) : Except Refusal (TypeId × TypeSystem) :=
  match s.types.register d with
  | .error refusal => .error refusal
  | .ok (id, types) => .ok (id, { s with sources := { s.sources with types := types } })

def registerConverter
    (s : TypeSystem) (d : ConverterDeclaration) : Except Refusal TypeSystem := do
  let source ← s.require .converterSource d.source
  let target ← s.require .converterTarget d.target
  let converters ← s.converters.add s.types ⟨source, target, d.function, d.options⟩
  return ⟨{ s.sources with converters := converters }, []⟩

/-- Whether a comparator is declared for exactly a pair of types. -/
def hasComparator
    (s : TypeSystem) (first second : TypeId) : Bool :=
  s.comparators.any fun e => e.first == first && e.second == second

/-- Register a comparator between two known types that are not both the universal one. -/
def registerComparator
    (s : TypeSystem) (d : ComparatorDeclaration) : Except Refusal TypeSystem := do
  let first ← s.require .comparator d.first
  let second ← s.require .comparator d.second
  if first = TypeId.object ∧ second = TypeId.object then
    throw .universalComparator
  if s.hasComparator first second then
    throw (.comparatorTaken (s.types.nameOf first) (s.types.nameOf second))
  let entry : ComparatorEntry := ⟨first, second, d.function, d.supportsOrdering⟩
  return ⟨{ s.sources with comparators := s.comparators ++ [entry] }, []⟩

/-- Add every missing chain of two converters, and tell how many there were. -/
def deriveChains
    (s : TypeSystem) : Nat × TypeSystem :=
  let derived := s.converters.deriveChains s.types
  if derived.1 = 0 then
    (0, s)
  else
    (derived.1, ⟨{ s.sources with converters := derived.2 }, []⟩)

/-- The comparator for two types, remembered or found out and remembered from now on. -/
def comparator
    (s : TypeSystem) (a b : TypeId) : Option Comparator × TypeSystem :=
  match s.memo.lookup (a, b) with
  | some found => (found, s)
  | none =>
      let found := s.sources.resolve a b
      (found, { s with memo := ((a, b), found) :: s.memo })

/-- Compare two values that may be missing. Whatever cannot be compared is not equal. -/
def compare
    (s : TypeSystem) : Option Value → Option Value → Relation × TypeSystem
  | some a, some b =>
      match s.comparator a.typeId b.typeId with
      | (some c, s) => (c.apply a b, s)
      | (none, s) => (.notEqual, s)
  | _, _ => (.notEqual, s)

/-- The order of two values, if they are compared by something that orders. -/
def ordering
    (s : TypeSystem) (a b : Value) : Option Ordering × TypeSystem :=
  match s.comparator a.typeId b.typeId with
  | (some c, s) => (if c.supportsOrdering then (c.apply a b).toOrdering else none, s)
  | (none, s) => (none, s)

/-- The value as the target type: itself if it can
be used as it is, or else converted. -/
def convert
    (s : TypeSystem) (v : Value) (target : TypeId) : Option Value :=
  s.converters.convert s.types v target

def parseLiteral
    (s : TypeSystem) (text : String) (id : TypeId) : Option Value :=
  match s.types.get? id with
  | some t => t.parse text
  | none => none

def display
    (s : TypeSystem) : Option Value → String
  | none => missingText
  | some v =>
      match s.types.get? v.typeId with
      | some t => t.display (some v)
      | none => v.data.display

end TypeSystem

end TriggerScript
