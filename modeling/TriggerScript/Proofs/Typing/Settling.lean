import TriggerScript.Proofs.Typing.Order

/-!
# Identities in use before their types

Nothing keeps an identity from being used before there is a type for it. Until then it
can be used as itself and as the universal type only, and with the registration of its
type it may become usable as more: as the types above that one. All other identities are
settled, whether they are registered or not.
-/

namespace TriggerScript
namespace Typing
namespace Registry

variable {r r' : Registry} {id : TypeId}

/-- What an identity can be used as is settled: it is registered, or the later registry
gives it no supertype but the universal one. -/
def Settled
    (r r' : Registry) (id : TypeId) : Prop :=
  r.Registered id ∨ ∀ above, r'.supertype? id = some above → above = TypeId.object

/-- An identity is settled if and only if it goes on being usable as the same types. -/
theorem settled_iff_agree
    (hext : r.Extends r') :
    r.Settled r' id ↔ r.Agree r' id := by
  by_cases hid : r.Registered id
  · exact ⟨fun _ => hid.agree hext, fun _ => Or.inl hid⟩
  · have hbefore := lineage_of_not_registered hid
    constructor
    · intro hsettled target
      have hobject := hsettled.resolve_left hid
      cases habove : r'.supertype? id with
      | none =>
          rw [isAssignable, isAssignable, hbefore, lineage_of_supertype?_eq_none habove]
      | some above =>
          rw [hobject above habove] at habove
          rw [isAssignable, isAssignable, hbefore, lineage_of_supertype?_eq_some habove,
            lineage_object]
          by_cases htarget : target = TypeId.object <;> simp [htarget]
    · intro hagree
      refine Or.inr ?_
      intro above habove
      have husable : r'.isAssignable above id = true := by
        simp [isAssignable, lineage_of_supertype?_eq_some habove, mem_lineage_self]
      have hne : above ≠ id := by
        rintro rfl
        exact absurd (r'.supertype_lt _ _ habove) (Nat.lt_irrefl _)
      rw [hagree, isAssignable, hbefore] at husable
      simpa [hne] using husable

/-- The registration of a type settles what all other identities can be used as. -/
theorem settled_of_register
    {d : TypeDeclaration} {x : TypeId}
    (h : r.register d = .ok (id, r'))
    (hne : x ≠ id) :
    r.Settled r' x := by
  obtain ⟨rfl, supertype, hentries⟩ := register_ok h
  by_cases hx : r.Registered x
  · exact Or.inl hx
  · have hraw : x.raw ≠ r.size := fun heq => hne (congrArg TypeId.mk heq)
    have hx' : ¬r'.Registered x := by
      unfold Registered size at *
      rw [hentries, List.length_append, List.length_singleton]
      omega
    refine Or.inr ?_
    intro above habove
    rw [supertype?_of_not_registered hx'] at habove
    cases habove

end Registry
end Typing
end TriggerScript
