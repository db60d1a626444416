import TriggerScript.Proofs.Typing.Lineage

/-!
# The meaning of words

In a sound registry every type has its place as its identity, and every known word stands
for a registered type. Registering a type keeps a registry sound, and gives a meaning to
words only that had none: its name must be free, and forms that are in use are left
alone.
-/

namespace TriggerScript
namespace Typing

namespace Lexicon

variable {l : Lexicon} {word word' : String} {sense sense' : Sense}

theorem find?_define_of_ne
    (h : Text.lower word' ≠ Text.lower word) :
    (l.define word sense).find? word' = l.find? word' := by
  have hne : (Text.lower word' == Text.lower word) = false := by
    simpa using h
  rw [find?, define, List.lookup_cons, hne]
  rfl

theorem find?_define_of_eq
    (h : Text.lower word' = Text.lower word) :
    (l.define word sense).find? word' = some sense := by
  rw [find?, define, List.lookup_cons, h, beq_self_eq_true]

/-- Words have their meaning from before, or the one that was given. -/
theorem of_find?_define
    (h : (l.define word sense).find? word' = some sense') :
    l.find? word' = some sense' ∨ sense' = sense := by
  by_cases heq : Text.lower word' = Text.lower word
  · rw [find?_define_of_eq heq] at h
    cases h
    exact Or.inr rfl
  · rw [find?_define_of_ne heq] at h
    exact Or.inl h

theorem of_find?_defineNew
    (h : (l.defineNew word sense).find? word' = some sense') :
    l.find? word' = some sense' ∨ sense' = sense := by
  unfold defineNew at h
  split at h
  · exact Or.inl h
  · exact of_find?_define h

/-- A known word keeps its meaning if another one is defined. -/
theorem find?_define_of_none
    (hnew : l.find? word = none)
    (h : l.find? word' = some sense') :
    (l.define word sense).find? word' = some sense' := by
  rwa [find?_define_of_ne]
  intro heq
  rw [find?, heq] at h
  rw [find?, h] at hnew
  cases hnew

theorem find?_defineNew
    (h : l.find? word' = some sense') :
    (l.defineNew word sense).find? word' = some sense' := by
  unfold defineNew
  split
  · exact h
  · rename_i hnew
    exact find?_define_of_none hnew h

end Lexicon

namespace Registry

variable {l : Lexicon} {t : TypeEntry} {word : String} {sense : Sense}

/-- The words of a type that come to others stand for the type. -/
theorem of_find?_lexiconWith
    (h : (lexiconWith l t).find? word = some sense) :
    l.find? word = some sense ∨ sense.typeId = t.id := by
  unfold lexiconWith at h
  rcases Lexicon.of_find?_defineNew h with h | rfl
  · rcases Lexicon.of_find?_defineNew h with h | rfl
    · rcases Lexicon.of_find?_define h with h | rfl
      · exact Or.inl h
      · exact Or.inr rfl
    · exact Or.inr rfl
  · exact Or.inr rfl

/-- The words of a type whose name is new do not change the meaning of others. -/
theorem find?_lexiconWith
    (hname : l.find? t.name = none)
    (h : l.find? word = some sense) :
    (lexiconWith l t).find? word = some sense := by
  unfold lexiconWith
  exact Lexicon.find?_defineNew
    (Lexicon.find?_defineNew (Lexicon.find?_define_of_none hname h))

/-- Whether a type is registered under an identity, and has it for its own. -/
def Knows
    (r : Registry) (id : TypeId) : Prop :=
  ∃ t, r.get? id = some t ∧ t.id = id

/-- Whether the types have their places as identities,
and the words stand for registered types. -/
structure Sound
    (r : Registry) : Prop where
  id_eq : ∀ id t, r.get? id = some t → t.id = id
  registered : ∀ word sense, r.sense? word = some sense → r.Registered sense.typeId

/-- Whether another registry has the same types, and maybe more behind them, and the
known words have the same meaning there. -/
structure Keeps
    (r r' : Registry) : Prop where
  entries : r.Extends r'
  words : ∀ word sense, r.sense? word = some sense → r'.sense? word = some sense

theorem Keeps.refl
    (r : Registry) :
    r.Keeps r := by
  exact ⟨Extends.refl r, fun _ _ h => h⟩

theorem Keeps.trans
    {r r' r'' : Registry}
    (h : r.Keeps r')
    (h' : r'.Keeps r'') :
    r.Keeps r'' := by
  constructor
  · exact h.entries.trans h'.entries
  · intro word sense hsense
    exact h'.words word sense (h.words word sense hsense)

theorem registered_iff_exists
    {r : Registry} {id : TypeId} :
    r.Registered id ↔ ∃ t, r.get? id = some t := by
  constructor
  · intro h
    exact ⟨_, List.getElem?_eq_getElem h⟩
  · rintro ⟨t, ht⟩
    exact (List.getElem?_eq_some_iff.1 ht).1

theorem Sound.knows_iff
    {r : Registry} {id : TypeId}
    (h : r.Sound) :
    r.Knows id ↔ r.Registered id := by
  rw [registered_iff_exists]
  constructor
  · rintro ⟨t, ht, -⟩
    exact ⟨t, ht⟩
  · rintro ⟨t, ht⟩
    exact ⟨t, ht, h.id_eq id t ht⟩

theorem Knows.of_extends
    {r r' : Registry} {id : TypeId}
    (h : r.Knows id)
    (hext : r.Extends r') :
    r'.Knows id := by
  obtain ⟨t, ht, hid⟩ := h
  obtain ⟨more, hmore⟩ := hext
  refine ⟨t, ?_, hid⟩
  rw [get?, ← hmore, List.getElem?_append_left (List.getElem?_eq_some_iff.1 ht).1]
  exact ht

/-- A word without a type is no known word. -/
theorem Sound.sense?_of_byName?
    {r : Registry} {word : String}
    (h : r.Sound)
    (hfree : r.byName? word = none) :
    r.sense? word = none := by
  cases hsense : r.sense? word with
  | none =>
      rfl
  | some sense =>
      have hregistered := h.registered word sense hsense
      obtain ⟨t, ht⟩ := registered_iff_exists.1 hregistered
      have hlt : sense.typeId.raw < r.size := hregistered
      simp [byName?, idOf?, hsense, hlt, ht] at hfree

theorem sense?_insert
    {r : Registry} {d : TypeDeclaration} {supertype : Option TypeId}
    {hsupertype : ∀ above, supertype = some above → above.raw < r.size} {word : String} :
    (r.insert d supertype hsupertype).sense? word =
      (lexiconWith r.lexicon (r.entryFor d supertype)).find? word := by
  rw [sense?, Registry.insert]

theorem registered_insert_iff
    {r : Registry} {d : TypeDeclaration} {supertype : Option TypeId}
    {hsupertype : ∀ above, supertype = some above → above.raw < r.size} {id : TypeId} :
    (r.insert d supertype hsupertype).Registered id ↔ id.raw ≤ r.size := by
  rw [← Nat.lt_succ_iff, Registered, size, size, Registry.insert, List.length_append]
  rfl

theorem Sound.insert
    {r : Registry} {supertype : Option TypeId}
    (h : r.Sound)
    (d : TypeDeclaration)
    (hsupertype : ∀ above, supertype = some above → above.raw < r.size) :
    (r.insert d supertype hsupertype).Sound := by
  constructor
  · intro id t ht
    have hle := registered_insert_iff.1 (registered_iff_exists.2 ⟨t, ht⟩)
    rcases Nat.lt_or_eq_of_le hle with hlt | heq
    · refine h.id_eq id t ?_
      rwa [get?, Registry.insert, List.getElem?_append_left hlt] at ht
    · rw [get?, heq, Registry.insert, size, List.getElem?_concat_length] at ht
      cases ht
      rw [entryFor, ← heq]
  · intro word sense hsense
    rw [sense?_insert] at hsense
    rw [registered_insert_iff]
    rcases of_find?_lexiconWith hsense with hold | hnew
    · exact Nat.le_of_lt (h.registered word sense hold)
    · rw [hnew]
      exact Nat.le_refl _

theorem sound_blank :
    blank.Sound := by
  constructor
  · intro id t ht
    simp [get?, blank] at ht
  · intro word sense hsense
    simp [sense?, Lexicon.find?, blank] at hsense

theorem sound_initial :
    initial.Sound := by
  exact sound_blank.insert _ _

theorem resolveSupertype_ok
    {r : Registry} {d : TypeDeclaration}
    {supertype : { s : Option TypeId // ∀ above, s = some above → above.raw < r.size }}
    (h : r.resolveSupertype d = .ok supertype) :
    d.supertype.map r.idOf? = supertype.1.map some := by
  unfold resolveSupertype at h
  split at h
  · rename_i hnone
    cases h
    rw [hnone]
    rfl
  · rename_i name hname
    split at h
    · cases h
    · rename_i id hid
      cases h
      rw [hname]
      exact congrArg some hid

/-- What an accepted registration rests on: the
name is free, and the supertype is registered. -/
theorem exists_insert_of_register
    {r r' : Registry} {d : TypeDeclaration} {id : TypeId}
    (h : r.register d = .ok (id, r')) :
    r.byName? d.name = none ∧
      ∃ supertype hsupertype,
        r' = r.insert d supertype hsupertype ∧
          d.supertype.map r.idOf? = supertype.map some := by
  unfold register at h
  split at h
  · cases h
  · rename_i hfree
    split at h
    · cases h
    · rename_i supertype hresolve
      cases h
      exact ⟨hfree, supertype.1, supertype.2, rfl, resolveSupertype_ok hresolve⟩

theorem Sound.register
    {r r' : Registry} {d : TypeDeclaration} {id : TypeId}
    (hsound : r.Sound)
    (h : r.register d = .ok (id, r')) :
    r'.Sound := by
  obtain ⟨-, supertype, hsupertype, rfl, -⟩ := exists_insert_of_register h
  exact hsound.insert d hsupertype

/-- Types stay and known words keep their meaning when a type is registered. -/
theorem Sound.keeps
    {r r' : Registry} {d : TypeDeclaration} {id : TypeId}
    (hsound : r.Sound)
    (h : r.register d = .ok (id, r')) :
    r.Keeps r' := by
  refine ⟨extends_of_register_ok h, ?_⟩
  obtain ⟨hfree, supertype, hsupertype, rfl, -⟩ := exists_insert_of_register h
  intro word sense hsense
  rw [sense?_insert]
  exact find?_lexiconWith (hsound.sense?_of_byName? hfree) hsense

/-- A known word goes on standing for its type. -/
theorem Keeps.idOf?_eq_some
    {r r' : Registry} {word : String} {id : TypeId}
    (h : r.Keeps r')
    (hid : r.idOf? word = some id) :
    r'.idOf? word = some id := by
  obtain ⟨hmeaning, hlt⟩ := Option.filter_eq_some_iff.1 hid
  obtain ⟨sense, hsense, rfl⟩ := Option.map_eq_some_iff.1 hmeaning
  have hlt : sense.typeId.raw < r.size := by
    simpa using hlt
  have hlt' : sense.typeId.raw < r'.size := Nat.lt_of_lt_of_le hlt h.entries.length_le
  simp [idOf?, h.words word sense hsense, hlt']

/-- A type that is inserted has its name. -/
theorem idOf?_insert
    {r : Registry} {d : TypeDeclaration} {supertype : Option TypeId}
    {hsupertype : ∀ above, supertype = some above → above.raw < r.size} :
    (r.insert d supertype hsupertype).idOf? d.name = some ⟨r.size⟩ := by
  have hsense : (r.insert d supertype hsupertype).sense? d.name =
      some ⟨⟨r.size⟩, true⟩ := by
    rw [sense?_insert, lexiconWith]
    exact Lexicon.find?_defineNew
      (Lexicon.find?_defineNew (Lexicon.find?_define_of_eq rfl))
  have hlt : r.size < (r.insert d supertype hsupertype).size := by
    simp [size, Registry.insert]
  simp [idOf?, hsense, hlt]

/-- A supertype is registered. -/
theorem registered_of_supertype?
    {r : Registry} {id above : TypeId}
    (h : r.supertype? id = some above) :
    r.Registered above := by
  refine Registered.of_supertype? ?_ h
  rw [registered_iff_exists]
  unfold supertype? supertypeIn at h
  cases hentry : r.entries[id.raw]? with
  | none =>
      rw [hentry] at h
      cases h
  | some t =>
      exact ⟨t, hentry⟩

end Registry
end Typing
end TriggerScript
