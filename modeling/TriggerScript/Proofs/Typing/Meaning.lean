import TriggerScript.Proofs.Typing.Order
import TriggerScript.Proofs.Typing.Words

/-!
# What names mean

A word means what the first registered type makes of it that has it among its name and
its forms. The name of a type is none of the words of the types before it, since it has
to be free. Therefore each type is found by its name, in the singular, and no word ever
changes its meaning.
-/

namespace TriggerScript
namespace Typing

/-- What a type makes of a word in any case: its name and its singular mean the type in
the singular, and a plural that is spelled otherwise means it in the plural. -/
def TypeEntry.sense?
    (t : TypeEntry) (word : String) : Option Sense :=
  if Text.lower word = Text.lower t.name ∨
      Text.lower word = Text.lower t.forms.singular then
    some ⟨t.id, true⟩
  else if Text.lower word = Text.lower t.forms.plural then
    some ⟨t.id, false⟩
  else
    none

namespace TypeEntry

variable {t : TypeEntry} {word : String} {sense : Sense}

theorem sense?_of_lower_eq_name
    (h : Text.lower word = Text.lower t.name) :
    t.sense? word = some ⟨t.id, true⟩ :=
  if_pos (Or.inl h)

theorem sense?_congr
    {word' : String}
    (h : Text.lower word' = Text.lower word) :
    t.sense? word' = t.sense? word := by
  rw [sense?, sense?, h]

theorem typeId_of_sense?
    (h : t.sense? word = some sense) :
    sense.typeId = t.id := by
  unfold sense? at h
  split at h
  · cases h
    rfl
  · split at h
    · cases h
      rfl
    · cases h

end TypeEntry

namespace Lexicon

variable {l : Lexicon} {word word' : String} {sense : Sense}

theorem find?_congr
    (h : Text.lower word' = Text.lower word) :
    l.find? word' = l.find? word := by
  rw [find?, find?, h]

theorem find?_define_eq_or
    (hnew : l.find? word = none) :
    (l.define word sense).find? word' =
      (l.find? word').or
        (if Text.lower word' = Text.lower word then some sense else none) := by
  by_cases h : Text.lower word' = Text.lower word
  · rw [find?_define_of_eq h, if_pos h, find?_congr h, hnew]
    rfl
  · rw [find?_define_of_ne h, if_neg h, Option.or_none]

theorem find?_defineNew_eq_or :
    (l.defineNew word sense).find? word' =
      (l.find? word').or
        (if Text.lower word' = Text.lower word then some sense else none) := by
  unfold defineNew
  split
  · rename_i known hknown
    by_cases h : Text.lower word' = Text.lower word
    · rw [find?_congr h, hknown]
      rfl
    · rw [if_neg h, Option.or_none]
  · rename_i hnew
    exact find?_define_eq_or hnew

end Lexicon

namespace Registry

variable {r r' : Registry} {d : TypeDeclaration}

/-- The words of one more type mean what they meant
before, and else what the type makes of them. -/
theorem find?_lexiconWith_eq_or
    {l : Lexicon} {t : TypeEntry}
    (hname : l.find? t.name = none) (word : String) :
    (lexiconWith l t).find? word = (l.find? word).or (t.sense? word) := by
  rw [lexiconWith, Lexicon.find?_defineNew_eq_or, Lexicon.find?_defineNew_eq_or,
    Lexicon.find?_define_eq_or hname, Option.or_assoc, Option.or_assoc]
  congr 1
  unfold TypeEntry.sense?
  by_cases hname : Text.lower word = Text.lower t.name
  · rw [if_pos hname, if_pos (Or.inl hname), Option.some_or]
  · rw [if_neg hname, Option.none_or]
    by_cases hsingular : Text.lower word = Text.lower t.forms.singular
    · rw [if_pos hsingular, if_pos (Or.inr hsingular), Option.some_or]
    · rw [if_neg hsingular, if_neg (not_or.2 ⟨hname, hsingular⟩), Option.none_or]

/-- Whether words mean what the first type makes of them that has them, and the name of
each type is no word of the types before it. -/
structure Spelled
    (r : Registry) : Prop where
  sense?_eq : ∀ word, r.sense? word = r.entries.findSome? fun t => t.sense? word
  names_free : r.entries.Pairwise fun s t => s.sense? t.name = none

theorem spelled_blank :
    blank.Spelled := by
  constructor
  · intro word
    rfl
  · exact List.Pairwise.nil

theorem Spelled.insert
    (h : r.Spelled)
    (hfree : r.sense? d.name = none)
    (supertype : Option TypeId)
    (hsupertype : ∀ above, supertype = some above → above.raw < r.size) :
    (r.insert d supertype hsupertype).Spelled := by
  have hname : r.lexicon.find? (r.entryFor d supertype).name = none := hfree
  constructor
  · intro word
    rw [sense?_insert, find?_lexiconWith_eq_or hname, Registry.insert,
      List.findSome?_append, List.findSome?_singleton, ← h.sense?_eq, sense?]
  · refine List.pairwise_append.2 ⟨h.names_free, List.pairwise_singleton _ _, ?_⟩
    intro s hs t ht
    rw [List.mem_singleton.1 ht]
    rw [h.sense?_eq, List.findSome?_eq_none_iff] at hfree
    exact hfree s hs

theorem spelled_initial :
    initial.Spelled := by
  have hfree : blank.sense? (TypeDeclaration.plain "object" "object¦s").name = none := by
    rw [sense?, Lexicon.find?, blank, List.lookup_nil]
  exact spelled_blank.insert hfree _ _

/-- What a declaration comes to: nothing if it is
refused, and else a type whose name was free. -/
theorem declare_cases
    (r : Registry) (d : TypeDeclaration) :
    ((∃ refusal, r.register d = .error refusal) ∧ r.declare d = r) ∨
      (r.byName? d.name = none ∧
        ∃ supertype hsupertype, r.declare d = r.insert d supertype hsupertype) := by
  unfold declare
  cases h : r.register d with
  | error refusal =>
      exact Or.inl ⟨⟨refusal, rfl⟩, rfl⟩
  | ok registered =>
      obtain ⟨hfree, supertype, hsupertype, hr', -⟩ := exists_insert_of_register h
      exact Or.inr ⟨hfree, supertype, hsupertype, hr'⟩

theorem Sound.declare
    (hsound : r.Sound) (d : TypeDeclaration) :
    (r.declare d).Sound := by
  rcases r.declare_cases d with ⟨-, hsame⟩ | ⟨-, supertype, hsupertype, hinsert⟩
  · rw [hsame]
    exact hsound
  · rw [hinsert]
    exact hsound.insert d hsupertype

theorem Spelled.declare
    (hspelled : r.Spelled)
    (hsound : r.Sound) (d : TypeDeclaration) :
    (r.declare d).Spelled := by
  rcases r.declare_cases d with ⟨-, hsame⟩ | ⟨hfree, supertype, hsupertype, hinsert⟩
  · rw [hsame]
    exact hspelled
  · rw [hinsert]
    exact hspelled.insert (hsound.sense?_of_byName? hfree) supertype hsupertype

/-- Registries that come from declarations are sound, and their words are spelled. -/
theorem sound_spelled_declareAll
    (ds : List TypeDeclaration) :
    (initial.declareAll ds).Sound ∧ (initial.declareAll ds).Spelled := by
  refine List.foldlRecOn (motive := fun r => r.Sound ∧ r.Spelled) ds Registry.declare
    ⟨sound_initial, spelled_initial⟩ ?_
  rintro r ⟨hsound, hspelled⟩ d -
  exact ⟨hsound.declare d, hspelled.declare hsound d⟩

theorem Sound.keeps_declare
    (hsound : r.Sound) (d : TypeDeclaration) :
    r.Keeps (r.declare d) := by
  unfold Registry.declare
  split
  · rename_i id r' hregister
    exact hsound.keeps hregister
  · exact Keeps.refl r

/-- Types stay and known words keep their meaning, whatever is declared. -/
theorem Sound.keeps_declareAll
    (hsound : r.Sound) (ds : List TypeDeclaration) :
    r.Keeps (r.declareAll ds) := by
  have hboth : (r.declareAll ds).Sound ∧ r.Keeps (r.declareAll ds) := by
    refine List.foldlRecOn (motive := fun r' => r'.Sound ∧ r.Keeps r')
      ds Registry.declare ⟨hsound, Keeps.refl r⟩ ?_
    rintro r' ⟨hsound', hkeeps⟩ d -
    exact ⟨hsound'.declare d, hkeeps.trans (hsound'.keeps_declare d)⟩
  exact hboth.2

/-- Looking up a registered type by its identity gives it back. -/
theorem Sound.get?_id
    {t : TypeEntry}
    (hsound : r.Sound)
    (ht : t ∈ r.entries) :
    r.get? t.id = some t := by
  obtain ⟨i, hi⟩ := List.mem_iff_getElem?.1 ht
  rw [hsound.id_eq ⟨i⟩ t hi]
  exact hi

theorem Sound.byName?_of_sense?
    {t : TypeEntry} {word : String} {sense : Sense}
    (hsound : r.Sound)
    (ht : t ∈ r.entries)
    (hsense : r.sense? word = some sense)
    (hid : sense.typeId = t.id) :
    r.byName? word = some t := by
  have hget := hsound.get?_id ht
  have hregistered : t.id.raw < r.size := registered_iff_exists.2 ⟨t, hget⟩
  have hidOf : r.idOf? word = some t.id := by
    rw [idOf?, hsense, Option.map_some, hid]
    exact Option.filter_some_pos (decide_eq_true hregistered)
  rw [byName?, hidOf]
  exact hget

/-- No type before another one takes its name. -/
theorem Spelled.sense?_name
    {t : TypeEntry} {word : String}
    (hspelled : r.Spelled)
    (ht : t ∈ r.entries)
    (hword : Text.lower word = Text.lower t.name) :
    r.sense? word = some ⟨t.id, true⟩ := by
  obtain ⟨before, after, hentries⟩ := List.append_of_mem ht
  have hfree := hspelled.names_free
  rw [hentries] at hfree
  have hbefore : before.findSome? (fun s => s.sense? word) = none := by
    refine List.findSome?_eq_none_iff.2 ?_
    intro s hs
    rw [TypeEntry.sense?_congr hword]
    exact (List.pairwise_append.1 hfree).2.2 s hs t List.mem_cons_self
  rw [hspelled.sense?_eq, hentries, List.findSome?_append, hbefore, Option.none_or,
    List.findSome?_cons, TypeEntry.sense?_of_lower_eq_name hword]

theorem idOf?_eq_none_iff
    {word : String} :
    r.idOf? word = none ↔ r.byName? word = none := by
  cases hid : r.idOf? word with
  | none =>
      simp [byName?, hid]
  | some id =>
      obtain ⟨t, ht⟩ := registered_iff_exists.1 (registered_of_idOf? hid)
      simp [byName?, hid, ht]

theorem resolveSupertype_refused_iff :
    (∃ refusal, r.resolveSupertype d = .error refusal) ↔
      ∃ above, d.supertype = some above ∧ r.byName? above = none := by
  unfold resolveSupertype
  split
  · rename_i hnone
    simp [hnone]
  · rename_i above habove
    simp only [habove, Option.some.injEq, exists_eq_left', ← idOf?_eq_none_iff]
    split
    · rename_i hid
      exact ⟨fun _ => hid, fun _ => ⟨_, rfl⟩⟩
    · rename_i id hid
      simp [hid]

/-- What a declaration is refused for: its name is
in use, or its supertype is not known. -/
theorem register_refused_iff :
    (∃ refusal, r.register d = .error refusal) ↔
      (∃ t, r.byName? d.name = some t) ∨
        ∃ above, d.supertype = some above ∧ r.byName? above = none := by
  rw [← resolveSupertype_refused_iff]
  unfold register
  cases hname : r.byName? d.name with
  | some t =>
      exact ⟨fun _ => Or.inl ⟨t, rfl⟩, fun _ => ⟨_, rfl⟩⟩
  | none =>
      cases hsupertype : r.resolveSupertype d with
      | error refusal =>
          exact ⟨fun _ => Or.inr ⟨refusal, rfl⟩, fun _ => ⟨refusal, rfl⟩⟩
      | ok supertype =>
          simp

/-- Whatever types were declared, accepted or refused: each of them has its
place as its identity; a refused declaration changes nothing, so that all
later ones come to what they come to without it; each type is found by its
name in any case, and always in the singular; and a word that means a type, in
the singular or in the plural, means the same whatever is declared later. -/
theorem sense?_declareAll
    (ds : List TypeDeclaration) :
    let r := initial.declareAll ds
    (∀ (i : Nat) (t : TypeEntry), r.entries[i]? = some t → t.id = ⟨i⟩) ∧
      (∀ d more, (∃ refusal, r.register d = .error refusal) →
        r.declareAll (d :: more) = r.declareAll more) ∧
      (∀ t ∈ r.entries, ∀ word, Text.lower word = Text.lower t.name →
        r.sense? word = some ⟨t.id, true⟩ ∧ r.byName? word = some t) ∧
      ∀ word sense more, r.sense? word = some sense →
        (r.declareAll more).sense? word = some sense := by
  intro r
  obtain ⟨hsound, hspelled⟩ := sound_spelled_declareAll ds
  refine ⟨?_, ?_, ?_, ?_⟩
  · intro i t ht
    exact hsound.id_eq ⟨i⟩ t ht
  · rintro d more ⟨refusal, hrefused⟩
    have hsame : r.declare d = r := by
      rw [declare, hrefused]
    exact congrArg (fun r : Registry => r.declareAll more) hsame
  · intro t ht word hword
    have hsense := hspelled.sense?_name ht hword
    exact ⟨hsense, hsound.byName?_of_sense? ht hsense rfl⟩
  · intro word sense more hsense
    exact (hsound.keeps_declareAll more).words word sense hsense

/-- Among pets, dogs are found by their name in capitals; another kind of dogs is
refused, and fish change nothing for dogs. -/
theorem sense?_declareAll_household :
    let r := initial.declareAll household
    let hound := TypeDeclaration.plain "DOG" "hound"
    let fish := TypeDeclaration.plain "fish" "fish"
    (∃ dog, r.entries[2]? = some dog ∧ dog.id = ⟨2⟩ ∧
        Text.lower "DOG" = Text.lower dog.name ∧
        r.byName? "DOG" = some dog) ∧
      (∃ refusal, r.register hound = .error refusal) ∧
      r.declareAll [hound, fish] = r.declareAll [fish] ∧
      r.sense? "Dog" = some ⟨⟨2⟩, true⟩ ∧
      (r.declareAll [fish]).sense? "Dog" = some ⟨⟨2⟩, true⟩ := by
  intro r hound fish
  obtain ⟨hplace, hrefused, hfound, hkept⟩ := sense?_declareAll household
  obtain ⟨hdog, hname, htaken, hsense⟩ :
      r.Registered ⟨2⟩ ∧
        (r.entries[2]?.map fun t => Text.lower t.name) = some (Text.lower "DOG") ∧
        (r.byName? "DOG").isSome = true ∧ r.sense? "Dog" = some ⟨⟨2⟩, true⟩ := by
    decide +kernel
  obtain ⟨dog, hget⟩ := registered_iff_exists.1 hdog
  have hget : r.entries[2]? = some dog := hget
  have hlower : Text.lower "DOG" = Text.lower dog.name := by
    rw [hget] at hname
    exact (Option.some.inj hname).symm
  have hhound : ∃ refusal, r.register hound = .error refusal :=
    register_refused_iff.2 (Or.inl (Option.isSome_iff_exists.1 htaken))
  refine ⟨⟨dog, hget, hplace 2 dog hget, hlower, ?_⟩, hhound,
    hrefused hound [fish] hhound, hsense, hkept "Dog" _ [fish] hsense⟩
  exact (hfound dog (List.mem_of_getElem? hget) "DOG" hlower).2

end Registry

end Typing
end TriggerScript
