import TriggerScript.Proofs.Typing.Meaning

/-!
# Forms in use

Only the name of a type has to be free. A form that is in use already is left to the type
that has it, and the later type is never found by it. All types are found by all their
words exactly as long as no type was accepted with a form that is a word of an earlier
one.
-/

namespace TriggerScript
namespace Typing

/-- Each member of a list is the first one that a word of
its own fits, if no word of its own fits an earlier one. -/
theorem find?_own_iff
    {α β : Type} {l : List α} {own : α → β}
    (fits : α → β → Bool)
    (hdistinct : l.Pairwise fun a b => a ≠ b)
    (hown : ∀ a ∈ l, fits a (own a) = true) :
    (∀ a ∈ l, l.find? (fun b => fits b (own a)) = some a) ↔
      l.Pairwise fun a b => fits a (own b) = false := by
  induction l with
  | nil =>
      simp
  | cons a l ih =>
      obtain ⟨hne, hdistinct⟩ := List.pairwise_cons.1 hdistinct
      obtain ⟨ha, hown⟩ := List.forall_mem_cons.1 hown
      rw [List.forall_mem_cons, List.pairwise_cons, ← ih hdistinct hown, ← forall₂_and]
      have hfirst : (a :: l).find? (fun b => fits b (own a)) = some a := by
        simp [ha]
      rw [and_iff_right hfirst]
      refine forall₂_congr ?_
      intro b hb
      cases hfits : fits a (own b) with
      | true =>
          simp [hfits, hne b hb]
      | false =>
          simp [hfits]

namespace TypeEntry

theorem isSome_sense?_singular
    (t : TypeEntry) :
    (t.sense? t.forms.singular).isSome = true := by
  rw [sense?, if_pos (Or.inr rfl)]
  rfl

theorem isSome_sense?_plural
    (t : TypeEntry) :
    (t.sense? t.forms.plural).isSome = true := by
  unfold sense?
  split
  · rfl
  · rw [if_pos rfl]
    rfl

end TypeEntry

namespace Registry

variable {r : Registry} {d : TypeDeclaration}

theorem Sound.entries_distinct
    (hsound : r.Sound) :
    r.entries.Pairwise fun s t => s ≠ t := by
  refine List.pairwise_iff_getElem.2 ?_
  intro i j hi hj hlt heq
  have hid : (⟨i⟩ : TypeId) = ⟨j⟩ := by
    rw [← hsound.id_eq ⟨i⟩ _ (List.getElem?_eq_getElem hi), heq]
    exact hsound.id_eq ⟨j⟩ _ (List.getElem?_eq_getElem hj)
  cases hid
  exact Nat.lt_irrefl i hlt

/-- A word leads to the first type that has it. -/
theorem Spelled.byName?_eq_find?
    (hspelled : r.Spelled)
    (hsound : r.Sound) (word : String) :
    r.byName? word = r.entries.find? fun t => (t.sense? word).isSome := by
  cases hfind : r.entries.find? fun t => (t.sense? word).isSome with
  | none =>
      have hnone : r.sense? word = none := by
        rw [hspelled.sense?_eq, List.findSome?_eq_none_iff]
        intro t ht
        simpa using List.find?_eq_none.1 hfind t ht
      rw [byName?, idOf?, hnone]
      rfl
  | some t =>
      obtain ⟨hhas, before, after, hentries, hbefore⟩ :=
        List.find?_eq_some_iff_append.1 hfind
      obtain ⟨sense, hsense⟩ := Option.isSome_iff_exists.1 hhas
      have hfirst : r.sense? word = some sense := by
        have hnone : before.findSome? (fun s => s.sense? word) = none := by
          refine List.findSome?_eq_none_iff.2 ?_
          intro s hs
          simpa using hbefore s hs
        rw [hspelled.sense?_eq, hentries, List.findSome?_append, hnone, Option.none_or,
          List.findSome?_cons, hsense]
      exact hsound.byName?_of_sense? (List.mem_of_find?_eq_some hfind) hfirst
        (TypeEntry.typeId_of_sense? hsense)

/-- All types are found by a word of their own
exactly if it is no word of an earlier type. -/
theorem Spelled.byName?_own_iff
    {own : TypeEntry → String}
    (hspelled : r.Spelled)
    (hsound : r.Sound)
    (hown : ∀ t : TypeEntry, (t.sense? (own t)).isSome = true) :
    (∀ t ∈ r.entries, r.byName? (own t) = some t) ↔
      r.entries.Pairwise fun s t => s.sense? (own t) = none := by
  have hnone : ∀ s t : TypeEntry,
      s.sense? (own t) = none ↔ (s.sense? (own t)).isSome = false := by
    intro s t
    exact (Option.isSome_eq_false_iff.trans Option.isNone_iff_eq_none).symm
  simp only [hspelled.byName?_eq_find? hsound, hnone]
  exact find?_own_iff (fun t word => (t.sense? word).isSome)
    hsound.entries_distinct fun t _ => hown t

/-- A word that leads to a type goes on doing so. -/
theorem Keeps.byName?_eq_some
    {r' : Registry} {word : String} {t : TypeEntry}
    (h : r.Keeps r')
    (ht : r.byName? word = some t) :
    r'.byName? word = some t := by
  obtain ⟨id, hid, hget⟩ := Option.bind_eq_some_iff.1 ht
  have hget' : r'.get? id = some t := by
    obtain ⟨more, hmore⟩ := h.entries
    rw [get?, ← hmore, List.getElem?_append_left (List.getElem?_eq_some_iff.1 hget).1]
    exact hget
  rw [byName?, h.idOf?_eq_some hid]
  exact hget'

/-- Whatever types were declared: a word leads to the first type that has it; each type
is found by its name, but by its singular and its plural all types are found if and only
if these are no words of earlier types. A declaration is refused exactly if its name
leads to a type or its supertype is not known, whatever its forms are; and a form that
leads to a type does so ever after. -/
theorem byName?_forms_iff
    (ds : List TypeDeclaration) :
    let r := initial.declareAll ds
    (∀ word, r.byName? word = r.entries.find? fun t => (t.sense? word).isSome) ∧
      (∀ t ∈ r.entries, r.byName? t.name = some t) ∧
      ((∀ t ∈ r.entries, r.byName? t.forms.singular = some t ∧
          r.byName? t.forms.plural = some t) ↔
        r.entries.Pairwise fun s t =>
          s.sense? t.forms.singular = none ∧ s.sense? t.forms.plural = none) ∧
      (∀ d, (∃ refusal, r.register d = .error refusal) ↔
        (∃ t, r.byName? d.name = some t) ∨
          ∃ above, d.supertype = some above ∧ r.byName? above = none) ∧
      ∀ word t more, r.byName? word = some t →
        (r.declareAll more).byName? word = some t := by
  intro r
  obtain ⟨hsound, hspelled⟩ := sound_spelled_declareAll ds
  refine ⟨hspelled.byName?_eq_find? hsound, ?_, ?_, fun d => register_refused_iff, ?_⟩
  · intro t ht
    exact hsound.byName?_of_sense? ht (hspelled.sense?_name ht rfl) rfl
  · rw [List.pairwise_and_iff,
      ← hspelled.byName?_own_iff hsound TypeEntry.isSome_sense?_singular,
      ← hspelled.byName?_own_iff hsound TypeEntry.isSome_sense?_plural]
    exact forall₂_and
  · intro word t more ht
    exact (hsound.keeps_declareAll more).byName?_eq_some ht

def leaf : TypeDeclaration := TypeDeclaration.plain "leaf" "lea¦f¦ves"

def leave : TypeDeclaration := TypeDeclaration.plain "leave" "leave¦s"

theorem register_leave :
    ¬∃ refusal, (initial.declareAll [leaf]).register leave = .error refusal := by
  have hfree : (initial.declareAll [leaf]).byName? leave.name = none := by
    rw [← Option.isNone_iff_eq_none]
    decide +kernel
  rw [register_refused_iff, hfree]
  simp [leave, TypeDeclaration.plain]

/-- A leaf is found by its name and its forms, and its plural leads to it even behind the
declaration of a leave with the same plural, which is accepted. -/
theorem byName?_forms_iff_leaves :
    let r := initial.declareAll [leaf]
    (¬∃ refusal, r.register leave = .error refusal) ∧
      ∃ t, r.entries[1]? = some t ∧ r.byName? t.name = some t ∧
        r.byName? "leaves" = some t ∧
        (r.declareAll [leave]).byName? "leaves" = some t := by
  intro r
  obtain ⟨-, hname, hforms, -, hkept⟩ := byName?_forms_iff [leaf]
  obtain ⟨hregistered, hplural, hfree⟩ :
      r.Registered ⟨1⟩ ∧ (r.entries[1]?.map fun t => t.forms.plural) = some "leaves" ∧
        r.entries.Pairwise fun s t =>
          s.sense? t.forms.singular = none ∧ s.sense? t.forms.plural = none := by
    decide +kernel
  obtain ⟨t, hget⟩ := registered_iff_exists.1 hregistered
  have hget : r.entries[1]? = some t := hget
  have ht := List.mem_of_getElem? hget
  have hleaves : r.byName? "leaves" = some t := by
    rw [hget] at hplural
    rw [← Option.some.inj hplural]
    exact (hforms.2 hfree t ht).2
  exact ⟨register_leave, t, hget, hname t ht, hleaves, hkept "leaves" t [leave] hleaves⟩

/-- The plurals of leaf and leave are the same: leave is
accepted behind leaf, but its plural goes on leading to leaf. -/
theorem not_forall_byName?_forms :
    (¬∀ ds, ∀ t ∈ (initial.declareAll ds).entries,
        (initial.declareAll ds).byName? t.forms.plural = some t) ∧
      ¬∀ ds d, (∃ t, (initial.declareAll ds).byName?
        (WordForms.ofPattern d.pattern).plural = some t) →
        ∃ refusal, (initial.declareAll ds).register d = .error refusal := by
  constructor
  · intro h
    have hids : (initial.declareAll [leaf, leave]).entries.map (fun t =>
          ((initial.declareAll [leaf, leave]).byName? t.forms.plural).map TypeEntry.id) =
        (initial.declareAll [leaf, leave]).entries.map fun t => some t.id := by
      refine List.map_congr_left ?_
      intro t ht
      rw [h [leaf, leave] t ht]
      rfl
    revert hids
    decide +kernel
  · intro h
    have hleaves : ∃ t, (initial.declareAll [leaf]).byName? "leaves" = some t := by
      rw [← Option.isSome_iff_exists]
      decide +kernel
    exact register_leave (h [leaf] leave hleaves)

end Registry

end Typing
end TriggerScript
