import TriggerScript.Text.Case
import TriggerScript.Typing.Declaration
import TriggerScript.Typing.Refusal

/-!
# The registry of types

Types are kept in the order of their registration, and found again by their names and
word forms without regard to case. A supertype is always registered before the types
below it, so that every type has a finite chain of supertypes.
-/

namespace TriggerScript
namespace Typing

/-- What a word stands for: a type, in the singular or in the plural. -/
structure Sense where
  typeId : TypeId
  isSingular : Bool
deriving DecidableEq

/-- The meaning of each known word, in lower case; the first entry of a word counts. -/
abbrev Lexicon := List (String × Sense)

namespace Lexicon

/-- The meaning of a word in any case. -/
def find?
    (l : Lexicon) (word : String) : Option Sense :=
  l.lookup (Text.lower word)

/-- Give a word a meaning, whatever it meant before. -/
def define
    (l : Lexicon) (word : String) (sense : Sense) : Lexicon :=
  (Text.lower word, sense) :: l

/-- Give a word a meaning if it has none. -/
def defineNew
    (l : Lexicon) (word : String) (sense : Sense) : Lexicon :=
  match l.find? word with
  | some _ => l
  | none => l.define word sense

end Lexicon

/-- The supertype that a list of types records for an identity. -/
def supertypeIn
    (entries : List TypeEntry) (id : TypeId) : Option TypeId :=
  entries[id.raw]?.bind TypeEntry.supertype

/-- All registered types. -/
structure Registry where
  entries : List TypeEntry
  lexicon : Lexicon
  /-- A supertype is registered before the types below it. -/
  supertype_lt :
    ∀ id above, supertypeIn entries id = some above → above.raw < id.raw

namespace Registry

def get?
    (r : Registry) (id : TypeId) : Option TypeEntry :=
  r.entries[id.raw]?

def supertype?
    (r : Registry) (id : TypeId) : Option TypeId :=
  supertypeIn r.entries id

def size
    (r : Registry) : Nat :=
  r.entries.length

/-- The type and the number that a word stands for. -/
def sense?
    (r : Registry) (word : String) : Option Sense :=
  r.lexicon.find? word

/-- The identity of the type that a word stands for. -/
def idOf?
    (r : Registry) (word : String) : Option TypeId :=
  ((r.sense? word).map Sense.typeId).filter fun id => id.raw < r.size

def byName?
    (r : Registry) (word : String) : Option TypeEntry :=
  (r.idOf? word).bind r.get?

theorem raw_lt_size_of_idOf?
    {r : Registry} {word : String} {id : TypeId} (h : r.idOf? word = some id) :
    id.raw < r.size := by
  simpa using Option.filter_eq_some_iff.1 h |>.2

def nameOf
    (r : Registry) (id : TypeId) : String :=
  match r.get? id with
  | some t => t.name
  | none => "<unknown>"

/-- A type followed by its supertypes, from the nearest on. -/
def lineage
    (r : Registry) (id : TypeId) : List TypeId :=
  match h : r.supertype? id with
  | none => [id]
  | some above =>
      have : above.raw < id.raw := r.supertype_lt id above h
      id :: r.lineage above
termination_by id.raw

/-- Whether values of the source type can be used where the target type is expected. -/
def isAssignable
    (r : Registry) (target source : TypeId) : Bool :=
  target == TypeId.object || (r.lineage source).contains target

def entryFor
    (r : Registry) (d : TypeDeclaration) (supertype : Option TypeId) : TypeEntry :=
  { id := ⟨r.size⟩
    name := d.name
    forms := WordForms.ofPattern d.pattern
    supertype := supertype
    abilities := d.abilities }

/-- The words of one more type: its name, and such of its forms as are not in use. -/
def lexiconWith
    (l : Lexicon) (t : TypeEntry) : Lexicon :=
  ((l.define t.name ⟨t.id, true⟩).defineNew t.forms.singular ⟨t.id, true⟩).defineNew
    t.forms.plural ⟨t.id, false⟩

theorem supertypeIn_append
    {entries : List TypeEntry} {t : TypeEntry}
    (hlt : ∀ id above, supertypeIn entries id = some above → above.raw < id.raw)
    (ht : ∀ above, t.supertype = some above → above.raw < entries.length) :
    ∀ id above, supertypeIn (entries ++ [t]) id = some above → above.raw < id.raw := by
  intro id above h
  unfold supertypeIn at h
  by_cases hid : id.raw < entries.length
  · rw [List.getElem?_append_left hid] at h
    exact hlt id above h
  · by_cases heq : id.raw = entries.length
    · rw [heq, List.getElem?_concat_length] at h
      have := ht above h
      omega
    · rw [List.getElem?_eq_none (by simp; omega)] at h
      simp at h

/-- The registry with one more type, whose supertype is a registered one. -/
def insert
    (r : Registry) (d : TypeDeclaration) (supertype : Option TypeId)
    (h : ∀ above, supertype = some above → above.raw < r.size) : Registry :=
  { entries := r.entries ++ [r.entryFor d supertype]
    lexicon := lexiconWith r.lexicon (r.entryFor d supertype)
    supertype_lt := supertypeIn_append r.supertype_lt h }

/-- The registry without types. -/
def blank : Registry :=
  { entries := []
    lexicon := []
    supertype_lt := by simp [supertypeIn] }

/-- The registry with nothing but the universal type. -/
def initial : Registry :=
  blank.insert (TypeDeclaration.plain "object" "object¦s") none (by simp)

/-- The supertype that a declaration asks for, with the proof that it is registered. -/
def resolveSupertype
    (r : Registry) (d : TypeDeclaration) :
    Except Refusal
      { s : Option TypeId // ∀ above, s = some above → above.raw < r.size } :=
  match d.supertype with
  | none => .ok ⟨none, by simp⟩
  | some name =>
      match h : r.idOf? name with
      | none => .error (.unknownSupertype name d.name)
      | some id => .ok ⟨some id, by simpa using raw_lt_size_of_idOf? h⟩

/-- Register a type; the name must be free and the supertype known. -/
def register
    (r : Registry) (d : TypeDeclaration) : Except Refusal (TypeId × Registry) :=
  match r.byName? d.name with
  | some _ => .error (.nameTaken d.name)
  | none =>
      match r.resolveSupertype d with
      | .error refusal => .error refusal
      | .ok supertype => .ok (⟨r.size⟩, r.insert d supertype.1 supertype.2)

end Registry

end Typing
end TriggerScript
