import Mathlib.Data.List.Nodup
import TriggerScript.Proofs.Conversion.Chaining

/-!
# Closure under chains

A registry has at most one converter between any two types, and it stays so when the
missing chains are added. Afterwards there is a converter wherever two declared ones make
up a chain, so that adding the missing chains once more adds nothing. Where several
chains would do, the one is added that comes first in the order of the registry, by its
first part and then by its second one.
-/

namespace TriggerScript
namespace Conversion

/-- The types that a converter leads from and to. -/
def Converter.ends
    (c : Converter) : TypeId × TypeId :=
  (c.source, c.target)

theorem Converter.connects_iff
    {c : Converter} {source target : TypeId} :
    c.connects source target = true ↔ c.ends = (source, target) := by
  simp [connects, ends]

/-- Two declared converters make up a chain: the first one may be followed and the second
one may follow, neither loses information, what the first one leads to can be used for
the second one, and the chain does not lead back. -/
structure Chainable
    (types : Typing.Registry) (first second : DeclaredConverter) : Prop where
  mayBeFollowed : first.options.noRightChaining = false
  mayFollow : second.options.noLeftChaining = false
  first_exact : first.options.lossy = false
  second_exact : second.options.lossy = false
  fits : types.isAssignable second.source first.target = true
  leads_on : first.source ≠ second.target

/-- Two declared converters make up a chain between two given types. -/
structure Links
    (types : Typing.Registry) (source target : TypeId)
    (first second : DeclaredConverter) :
    Prop where
  chainable : Chainable types first second
  starts : first.source = source
  arrives : second.target = target

namespace Registry

variable {r : Registry} {types : Typing.Registry} {a b : TypeId} {c : Converter}

section Unambiguous

/-- No two converters lead from the same type to the same type. -/
def Unambiguous
    (r : Registry) : Prop :=
  (r.map Converter.ends).Nodup

theorem between?_eq_none_iff :
    r.between? a b = none ↔ (a, b) ∉ r.map Converter.ends := by
  simp [between?, List.find?_eq_none, Converter.connects_iff]

theorem isSome_between?_iff :
    (r.between? a b).isSome ↔ ∃ c ∈ r, c.ends = (a, b) := by
  simp [between?, List.find?_isSome, Converter.connects_iff]

theorem between?_spec
    (h : r.between? a b = some c) :
    c ∈ r ∧ c.ends = (a, b) := by
  have hconnects := List.find?_some h
  exact ⟨List.mem_of_find?_eq_some h, Converter.connects_iff.1 hconnects⟩

/-- A converter is the one between its types. -/
theorem Unambiguous.between?_of_mem
    (h : r.Unambiguous)
    (hc : c ∈ r) :
    r.between? c.source c.target = some c := by
  have hsome : (r.between? c.source c.target).isSome :=
    isSome_between?_iff.2 ⟨c, hc, rfl⟩
  obtain ⟨c', hc'⟩ := Option.isSome_iff_exists.1 hsome
  obtain ⟨hmem, hends⟩ := between?_spec hc'
  rw [hc', List.inj_on_of_nodup_map h hmem hc hends]

theorem Unambiguous.append
    (h : r.Unambiguous)
    (hfree : r.between? c.source c.target = none) :
    Unambiguous (r ++ [c]) := by
  have hnew := between?_eq_none_iff.1 hfree
  unfold Unambiguous
  rw [List.map_append, List.map_singleton, ← List.concat_eq_append]
  exact List.Nodup.concat hnew h

theorem Unambiguous.addNew
    (h : r.Unambiguous)
    (c : Converter) :
    (r.addNew c).Unambiguous := by
  unfold Registry.addNew
  split
  · exact h
  · rename_i hfree
    exact h.append hfree

theorem Unambiguous.withChains
    (h : r.Unambiguous)
    (types : Typing.Registry) :
    (r.withChains types).Unambiguous := by
  refine List.foldlRecOn (motive := Unambiguous) (r.chains types) Registry.addNew h ?_
  intro r' hr' c _
  exact hr'.addNew c

end Unambiguous

section Order

theorem findSome?_filter {α β : Type}
    (p : α → Bool) (f : α → Option β) (l : List α) :
    (l.filter p).findSome? f = l.findSome? fun x => if p x then f x else none := by
  induction l with
  | nil =>
      rfl
  | cons x l ih =>
      cases hx : p x <;> simp [List.findSome?_cons, hx, ih]

theorem links_iff
    {first second : DeclaredConverter} :
    Links types a b first second ↔
      first.chainsOnRight = true ∧ canFollow types first second = true ∧
        second.chainsOnLeft = true ∧
        (Converter.chained first second).connects a b = true := by
  simp only [DeclaredConverter.chainsOnRight, DeclaredConverter.chainsOnLeft, canFollow,
    Converter.connects, Converter.source, Converter.target, Bool.and_eq_true,
    Bool.not_eq_true', bne_iff_ne, beq_iff_eq]
  constructor
  · rintro ⟨⟨hright, hleft, hfirst, hsecond, hfits, hleads⟩, hstarts, harrives⟩
    exact ⟨⟨hright, hfirst⟩, ⟨hleads, hfits⟩, ⟨hleft, hsecond⟩, hstarts, harrives⟩
  · rintro ⟨⟨hright, hfirst⟩, ⟨hleads, hfits⟩, ⟨hleft, hsecond⟩, hstarts, harrives⟩
    exact ⟨⟨hright, hleft, hfirst, hsecond, hfits, hleads⟩, hstarts, harrives⟩

/-- Two declared converters make up the first chain between two types in the order of the
registry: with no earlier one as its first part is there such a chain, and with this
first part none with an earlier second one. -/
structure FirstChain
    (r : Registry) (types : Typing.Registry) (source target : TypeId)
    (first second : DeclaredConverter) : Prop where
  links : Links types source target first second
  first_earliest :
    ∃ before behind, r.declared = before ++ first :: behind ∧
      ∀ x ∈ before, ∀ y ∈ r.declared, ¬Links types source target x y
  second_earliest :
    ∃ before behind, r.declared = before ++ second :: behind ∧
      ∀ y ∈ before, ¬Links types source target first y

theorem FirstChain.mem_declared
    {first second : DeclaredConverter}
    (h : r.FirstChain types a b first second) :
    first ∈ r.declared ∧ second ∈ r.declared := by
  obtain ⟨-, ⟨before, behind, hfirst, -⟩, ⟨before', behind', hsecond, -⟩⟩ := h
  constructor
  · rw [hfirst]
    exact List.mem_append_right before List.mem_cons_self
  · rw [hsecond]
    exact List.mem_append_right before' List.mem_cons_self

open Classical in
/-- The first chain between two types, found by
its first part and then by its second one. -/
theorem find?_chains
    (r : Registry) (types : Typing.Registry) (a b : TypeId) :
    (r.chains types).find? (fun c => c.connects a b) =
      r.declared.findSome? fun first =>
        (r.declared.find? fun second => decide (Links types a b first second)).map
          (Converter.chained first) := by
  unfold chains
  rw [List.find?_flatMap, findSome?_filter]
  congr 1
  funext first
  split
  · rename_i hright
    simp [List.find?_map, List.find?_filter, links_iff, hright, Bool.and_assoc]
  · rename_i hright
    have hnone :
        r.declared.find? (fun second => decide (Links types a b first second)) = none :=
      List.find?_eq_none.2 (by simp [links_iff, hright])
    rw [hnone]
    rfl

theorem find?_chains_eq_some_iff :
    (r.chains types).find? (fun c => c.connects a b) = some c ↔
      ∃ first second, r.FirstChain types a b first second ∧
        c = .chained first second := by
  rw [find?_chains, List.findSome?_eq_some_iff]
  constructor
  · rintro ⟨before, first, behind, hdeclared, hfound, hbefore⟩
    obtain ⟨second, hsecond, rfl⟩ := Option.map_eq_some_iff.1 hfound
    obtain ⟨hlinks, before', behind', hdeclared', hbefore'⟩ :=
      List.find?_eq_some_iff_append.1 hsecond
    refine ⟨first, second, ⟨by simpa using hlinks, ⟨before, behind, hdeclared, ?_⟩,
      ⟨before', behind', hdeclared', by simpa using hbefore'⟩⟩, rfl⟩
    intro x hx
    simpa using hbefore x hx
  · rintro ⟨first, second, ⟨hlinks, ⟨before, behind, hdeclared, hbefore⟩,
      ⟨before', behind', hdeclared', hbefore'⟩⟩, rfl⟩
    refine ⟨before, first, behind, hdeclared, ?_, ?_⟩
    · refine Option.map_eq_some_iff.2 ⟨second, List.find?_eq_some_iff_append.2 ?_, rfl⟩
      exact ⟨by simpa using hlinks, before', behind', hdeclared',
        by simpa using hbefore'⟩
    · intro x hx
      simpa using hbefore x hx

end Order

section Closure

/-- Where there is a chain of two declared converters,
there is a converter once the missing chains are added. -/
theorem exists_mem_withChains
    {first second : DeclaredConverter}
    (hfirst : first ∈ r.declared)
    (hsecond : second ∈ r.declared)
    (hchainable : Chainable types first second) :
    ∃ c ∈ r.withChains types, c.ends = (first.source, second.target) := by
  obtain ⟨hright, hfollow, hleft, hconnects⟩ := links_iff.1 ⟨hchainable, rfl, rfl⟩
  have hchain : Converter.chained first second ∈ r.chains types :=
    mem_chains_iff.2 ⟨first, second, ⟨mem_declared_iff.1 hfirst, hright⟩,
      ⟨mem_declared_iff.1 hsecond, hleft⟩, hfollow, rfl⟩
  have hfound :
      ((r.chains types).find? fun c => c.connects first.source second.target).isSome :=
    List.find?_isSome.2 ⟨_, hchain, hconnects⟩
  rw [← isSome_between?_iff, withChains, between?_foldl_addNew, Option.isSome_or, hfound,
    Bool.or_true]

/-- What is added is the first chain between its types. -/
theorem firstChain_of_mem_added
    {added : List Converter}
    (h : r.Unambiguous)
    (hadded : r.withChains types = r ++ added)
    (hc : c ∈ added) :
    ∃ first second,
      r.FirstChain types c.source c.target first second ∧ c = .chained first second := by
  have hall := h.withChains types
  have hmem : c ∈ r.withChains types := by
    rw [hadded]
    exact List.mem_append_right r hc
  have hfound := hall.between?_of_mem hmem
  have hfree : r.between? c.source c.target = none := by
    rw [Unambiguous, hadded, List.map_append] at hall
    refine between?_eq_none_iff.2 fun hold => ?_
    exact List.disjoint_of_nodup_append hall hold (List.mem_map_of_mem hc)
  rw [withChains, between?_foldl_addNew, hfree, Option.none_or] at hfound
  exact find?_chains_eq_some_iff.1 hfound

theorem foldl_addNew_of_covered
    {cs : List Converter}
    (h : ∀ c ∈ cs, (r.between? c.source c.target).isSome) :
    cs.foldl addNew r = r := by
  induction cs with
  | nil =>
      rfl
  | cons c cs ih =>
      obtain ⟨taken, htaken⟩ := Option.isSome_iff_exists.1 (h c List.mem_cons_self)
      have hsame : r.addNew c = r := by
        simp [addNew, htaken]
      rw [List.foldl_cons, hsame]
      exact ih fun c' hc' => h c' (List.mem_cons_of_mem c hc')

/-- Once the missing chains are added, none is missing. -/
theorem withChains_withChains
    (r : Registry) (types : Typing.Registry) :
    (r.withChains types).withChains types = r.withChains types := by
  have hchains : (r.withChains types).chains types = r.chains types := by
    unfold chains
    rw [declared_withChains]
  rw [withChains, hchains]
  refine foldl_addNew_of_covered ?_
  intro c hc
  have hfound :
      ((r.chains types).find? fun c' => c'.connects c.source c.target).isSome :=
    List.find?_isSome.2 ⟨c, hc, Converter.connects_iff.2 rfl⟩
  rw [withChains, between?_foldl_addNew, Option.isSome_or, hfound, Bool.or_true]

end Closure

end Registry

end Conversion
end TriggerScript
