import TriggerScript.Typing.Registry

/-!
# Supertypes under registration

Registering a type puts one more entry behind the others and leaves those as they are. A
type that is registered already therefore keeps its chain of supertypes, and with it the
types that it can stand in for. Identities that are not registered yet have no such
guarantee: they have no supertype now, and may get one.
-/

namespace TriggerScript
namespace Typing
namespace Registry

/-- The identity belongs to a registered type. -/
def Registered
    (r : Registry) (id : TypeId) : Prop :=
  id.raw < r.size

instance
    (r : Registry) (id : TypeId) : Decidable (r.Registered id) :=
  inferInstanceAs (Decidable (id.raw < r.size))

/-- The second registry holds the types of the
first one, and possibly more behind them. -/
def Extends
    (r r' : Registry) : Prop :=
  r.entries <+: r'.entries

theorem Extends.refl
    (r : Registry) :
    r.Extends r := by
  exact List.prefix_rfl

theorem Extends.trans
    {r r' r'' : Registry}
    (h : r.Extends r')
    (h' : r'.Extends r'') :
    r.Extends r'' := by
  exact List.IsPrefix.trans h h'

theorem Registered.of_extends
    {r r' : Registry} {id : TypeId}
    (hid : r.Registered id)
    (h : r.Extends r') :
    r'.Registered id := by
  have hlen : r.size ≤ r'.size := List.IsPrefix.length_le h
  unfold Registered at *
  omega

/-- Names are only resolved to registered types. -/
theorem registered_of_idOf?
    {r : Registry} {word : String} {id : TypeId}
    (h : r.idOf? word = some id) :
    r.Registered id := by
  exact raw_lt_size_of_idOf? h

theorem supertype?_of_extends
    {r r' : Registry} {id : TypeId}
    (h : r.Extends r')
    (hid : r.Registered id) :
    r'.supertype? id = r.supertype? id := by
  obtain ⟨more, hmore⟩ := h
  unfold supertype? supertypeIn
  rw [← hmore, List.getElem?_append_left hid]

/-- A supertype of a registered type is registered. -/
theorem Registered.of_supertype?
    {r : Registry} {id above : TypeId}
    (hid : r.Registered id)
    (h : r.supertype? id = some above) :
    r.Registered above := by
  have hlt := r.supertype_lt id above h
  unfold Registered at *
  omega

theorem lineage_of_supertype?_eq_none
    {r : Registry} {id : TypeId}
    (h : r.supertype? id = none) :
    r.lineage id = [id] := by
  rw [lineage]
  split
  · rfl
  · rename_i above habove
    rw [h] at habove
    cases habove

theorem lineage_of_supertype?_eq_some
    {r : Registry} {id above : TypeId}
    (h : r.supertype? id = some above) :
    r.lineage id = id :: r.lineage above := by
  rw [lineage]
  split
  · rename_i hnone
    rw [h] at hnone
    cases hnone
  · rename_i other hother
    rw [h] at hother
    cases hother
    rfl

/-- A registered type keeps its whole lineage. -/
theorem lineage_of_extends
    {r r' : Registry}
    (h : r.Extends r')
    {id : TypeId}
    (hid : r.Registered id) :
    r'.lineage id = r.lineage id := by
  induction hn : id.raw using Nat.strongRecOn generalizing id with
  | ind n ih =>
      have hsup := supertype?_of_extends h hid
      cases habove : r.supertype? id with
      | none =>
          rw [habove] at hsup
          rw [lineage_of_supertype?_eq_none habove,
            lineage_of_supertype?_eq_none hsup]
      | some above =>
          rw [habove] at hsup
          have hlt := r.supertype_lt id above habove
          rw [lineage_of_supertype?_eq_some habove,
            lineage_of_supertype?_eq_some hsup,
            ih above.raw (by omega) (hid.of_supertype? habove) rfl]

/-- What a registered type can stand in for does not change. -/
theorem isAssignable_of_extends
    {r r' : Registry}
    (h : r.Extends r')
    {source : TypeId}
    (hsource : r.Registered source)
    (target : TypeId) :
    r'.isAssignable target source = r.isAssignable target source := by
  unfold isAssignable
  rw [lineage_of_extends h hsource]

/-- An identity can be used as the same types in two registries. -/
def Agree
    (r r' : Registry) (source : TypeId) : Prop :=
  ∀ target, r'.isAssignable target source = r.isAssignable target source

theorem Registered.agree
    {r r' : Registry} {id : TypeId}
    (hid : r.Registered id)
    (h : r.Extends r') :
    r.Agree r' id := by
  exact isAssignable_of_extends h hid

theorem lineage_eq_cons
    (r : Registry) (id : TypeId) :
    ∃ above, r.lineage id = id :: above := by
  cases h : r.supertype? id with
  | none =>
      exact ⟨[], lineage_of_supertype?_eq_none h⟩
  | some above =>
      exact ⟨r.lineage above, lineage_of_supertype?_eq_some h⟩

theorem mem_lineage_self
    (r : Registry) (id : TypeId) :
    id ∈ r.lineage id := by
  obtain ⟨above, h⟩ := lineage_eq_cons r id
  rw [h]
  exact List.mem_cons_self

theorem isAssignable_self
    (r : Registry) (id : TypeId) :
    r.isAssignable id id = true := by
  simp [isAssignable, mem_lineage_self]

theorem supertype?_of_not_registered
    {r : Registry} {id : TypeId}
    (h : ¬r.Registered id) :
    r.supertype? id = none := by
  unfold Registered size at h
  unfold supertype? supertypeIn
  rw [List.getElem?_eq_none (by omega)]
  rfl

/-- An identity that is not registered can stand
in for itself and the universal type only. -/
theorem lineage_of_not_registered
    {r : Registry} {id : TypeId}
    (h : ¬r.Registered id) :
    r.lineage id = [id] := by
  exact lineage_of_supertype?_eq_none (supertype?_of_not_registered h)

/-- Whatever can stand in for a type, registered or not, goes on doing so. -/
theorem isAssignable_mono
    {r r' : Registry} {target source : TypeId}
    (hext : r.Extends r')
    (h : r.isAssignable target source = true) :
    r'.isAssignable target source = true := by
  by_cases hsource : r.Registered source
  · rwa [isAssignable_of_extends hext hsource]
  · rw [isAssignable, lineage_of_not_registered hsource] at h
    by_cases hobject : target = TypeId.object
    · simp [isAssignable, hobject]
    · have htarget : target = source := by
        simpa [hobject] using h
      rw [htarget]
      exact isAssignable_self r' source

/-- A registry between two that agree on an identity agrees with them. -/
theorem Agree.of_extends
    {r r' r'' : Registry} {source : TypeId}
    (h : r.Agree r'' source)
    (hext : r.Extends r')
    (hext' : r'.Extends r'') :
    r'.Agree r'' source := by
  intro target
  refine Bool.eq_iff_iff.2 ⟨?_, isAssignable_mono hext'⟩
  intro hlater
  rw [h] at hlater
  exact isAssignable_mono hext hlater

/-- What an accepted registration does: the type
gets the next identity, behind all others. -/
theorem register_ok
    {r r' : Registry} {d : TypeDeclaration} {id : TypeId}
    (h : r.register d = .ok (id, r')) :
    id = ⟨r.size⟩ ∧
      ∃ supertype, r'.entries = r.entries ++ [r.entryFor d supertype] := by
  unfold register at h
  split at h
  · cases h
  · split at h
    · cases h
    · rename_i supertype _
      cases h
      exact ⟨rfl, supertype.1, rfl⟩

/-- An accepted registration extends the registry. -/
theorem extends_of_register_ok
    {r r' : Registry} {d : TypeDeclaration} {id : TypeId}
    (h : r.register d = .ok (id, r')) :
    r.Extends r' := by
  obtain ⟨_, supertype, hentries⟩ := register_ok h
  exact ⟨[r.entryFor d supertype], hentries.symm⟩

end Registry
end Typing
end TriggerScript
