import TriggerScript.Pattern.Phrasing
import TriggerScript.Proofs.Pattern.Concatenation
import TriggerScript.Regex.Acceptance

/-!
# Phrasings can be read

The patterns of a property and of a condition are put together from the texts of an owner
and of a property with fixed texts between them. Whenever both texts can be read, so can
the patterns; their slots are those of the two texts in the order of the pattern, and the
mark of the negated verb is the only one that they add.
-/

namespace TriggerScript
namespace Pattern

namespace Tree

/-- The alternatives of a tree that is a choice. -/
def choice? : Tree → Option (List (Marked Tree))
  | .choice as => some as
  | _ => none

/-- The alternatives of the choices that stand next to each other in a tree. -/
def choices
    (t : Tree) : List (List (Marked Tree)) :=
  t.parts.filterMap choice?

theorem Canonical.joined_parts
    [Regex.Dialect]
    {t : Tree}
    (h : t.Canonical) :
    Joined t.parts := by
  cases t with
  | text s =>
      rw [parts]
      split
      · exact joined_nil
      · rename_i hs
        exact joined_nil.cons rfl (fun ht => hs (Tree.text.inj ht)) nofun
  | compound ts =>
      exact h.2.1
  | _ =>
      exact joined_nil.cons rfl nofun nofun

theorem slots_eq_slotsOfAll_parts
    (t : Tree) :
    t.slots = slotsOfAll t.parts := by
  cases t with
  | text s =>
      rw [parts]
      split <;> rfl
  | compound ts =>
      rfl
  | _ =>
      exact (List.append_nil _).symm

theorem slots_ofList
    (ts : List Tree) :
    (ofList ts).slots = slotsOfAll ts := by
  match ts with
  | [] =>
      rfl
  | [t] =>
      exact (List.append_nil _).symm
  | s :: t :: ts =>
      rfl

theorem slotsOfAll_joinParts
    (ts us : List Tree) :
    slotsOfAll (joinParts ts us) = slotsOfAll ts ++ slotsOfAll us := by
  fun_induction joinParts ts us with
  | case1 us =>
      rfl
  | case2 s t us =>
      rfl
  | case3 t ts us _ ih =>
      rw [slotsOfAll, slotsOfAll, ih, List.append_assoc]

theorem filterMap_choice?_joinParts
    (ts us : List Tree) :
    (joinParts ts us).filterMap choice? =
      ts.filterMap choice? ++ us.filterMap choice? := by
  fun_induction joinParts ts us with
  | case1 us =>
      rfl
  | case2 s t us =>
      rfl
  | case3 t ts us _ ih =>
      rw [List.filterMap_cons, List.filterMap_cons, ih]
      cases choice? t <;> rfl

/-- The slots of a tree stand in front of those of the tree behind it. -/
@[simp] theorem slots_append
    (t u : Tree) :
    (t.append u).slots = t.slots ++ u.slots := by
  rw [append, slots_ofList, slotsOfAll_joinParts, ← slots_eq_slotsOfAll_parts,
    ← slots_eq_slotsOfAll_parts]

theorem choices_append
    [Regex.Dialect]
    {t u : Tree}
    (ht : t.Canonical)
    (hu : u.Canonical) :
    (t.append u).choices = t.choices ++ u.choices := by
  rw [choices, append, (ht.joined_parts.joinParts hu.joined_parts).parts_ofList,
    filterMap_choice?_joinParts, choices, choices]

end Tree

theorem canonical_of_compile
    [Regex.Dialect]
    {source : String} {t : Tree}
    (h : compile source = .ok t) :
    t.Canonical :=
  canonical_of_parse (compile_ok_iff.1 h)

/-- A pattern between two others adds its slots and its choices between theirs. -/
theorem compile_between
    [Regex.Dialect]
    {p q r : String} {t u v : Tree}
    (hp : compile p = .ok t)
    (hq : compile q = .ok u)
    (hr : compile r = .ok v) :
    ∃ w, compile (p ++ q ++ r) = .ok w ∧ w.slots = t.slots ++ u.slots ++ v.slots ∧
      w.choices = t.choices ++ u.choices ++ v.choices := by
  have hpq := compile_append_of_ok hp hq
  refine ⟨_, compile_append_of_ok hpq hr, by simp, ?_⟩
  rw [Tree.choices_append (canonical_of_compile hpq) (canonical_of_compile hr),
    Tree.choices_append (canonical_of_compile hp) (canonical_of_compile hq)]

/-- No alternative of a verb in the affirmative is marked. -/
theorem Verb.compile_affirmative [Regex.Dialect] :
    (verb : Verb) →
      ∃ t, compile verb.affirmative = .ok t ∧ t.slots = [] ∧
        ∀ as ∈ t.choices, ∀ a ∈ as, a.mark = 0
  | .be =>
      ⟨.compound [.text " ", .choice [⟨0, .text "is"⟩, ⟨0, .text "are"⟩], .text " "],
        by cbv, rfl, by decide⟩
  | .can =>
      ⟨.text " can ", by cbv, rfl, by decide⟩
  | .have =>
      ⟨.compound [.text " ", .choice [⟨0, .text "has"⟩, ⟨0, .text "have"⟩], .text " "],
        by cbv, rfl, by decide⟩

/-- A verb in the negative has one choice, and all its alternatives have the mark one. -/
theorem Verb.compile_negated [Regex.Dialect] :
    (verb : Verb) →
      ∃ t as, compile verb.negated = .ok t ∧ t.slots = [] ∧ t.choices = [as] ∧ as ≠ [] ∧
        ∀ a ∈ as, a.mark = 1
  | .be =>
      ⟨.compound [.text " ",
          .choice [⟨1, .text "isn't"⟩, ⟨1, .text "is not"⟩, ⟨1, .text "aren't"⟩,
            ⟨1, .text "are not"⟩],
          .text " "],
        _, by cbv, rfl, rfl, by simp, by decide⟩
  | .can =>
      ⟨.compound [.text " ",
          .choice [⟨1, .text "can't"⟩, ⟨1, .text "cannot"⟩, ⟨1, .text "can not"⟩],
          .text " "],
        _, by cbv, rfl, rfl, by simp, by decide⟩
  | .have =>
      ⟨.compound [.text " ",
          .choice [⟨1, .text "doesn't"⟩, ⟨1, .text "does not"⟩, ⟨1, .text "don't"⟩,
            ⟨1, .text "do not"⟩],
          .text " have "],
        _, by cbv, rfl, rfl, by simp, by decide⟩

/-- The possessive pattern of a property has the slots of the owner in front, and the
other pattern those of the property. -/
theorem compile_propertyPatterns
    [Regex.Dialect]
    {owner property : String} {t u : Tree}
    (howner : compile (ownerForm owner) = .ok t)
    (hproperty : compile property = .ok u) :
    ∃ possessive prepositional,
      (propertyPatterns owner property).map compile =
          [.ok possessive, .ok prepositional] ∧
        possessive.slots = t.slots ++ u.slots ∧
        prepositional.slots = u.slots ++ t.slots := by
  have hpossessive : compile "'[s] " =
      .ok (.compound [.text "'", .optional (.text "s"), .text " "]) := by
    cbv
  have hthe : compile "[the] " =
      .ok (.compound [.optional (.text "the"), .text " "]) := by
    cbv
  have hof : compile " of " = .ok (.text " of ") := by
    cbv
  obtain ⟨v, hv, hslots, -⟩ := compile_between howner hpossessive hproperty
  obtain ⟨w, hw, hslots', -⟩ :=
    compile_between (compile_append_of_ok hthe hproperty) hof howner
  refine ⟨v, w, by simp [propertyPatterns, hv, hw], ?_, ?_⟩
  · simpa [Tree.slots, Tree.slotsOfAll] using hslots
  · simpa [Tree.slots, Tree.slotsOfAll] using hslots'

/-- Both patterns of a condition have the slots of the performer in front of those of the
property, and between the choices of the two those of the verb. -/
theorem compile_conditionPatterns
    [Regex.Dialect]
    {performer property : String} {t u : Tree}
    (hperformer : compile (ownerForm performer) = .ok t)
    (hproperty : compile property = .ok u)
    (verb : Verb) :
    ∃ affirmative negated v as,
      (conditionPatterns performer verb property).map compile =
          [.ok affirmative, .ok negated] ∧
        (affirmative.slots = t.slots ++ u.slots ∧ negated.slots = t.slots ++ u.slots) ∧
        (compile verb.affirmative = .ok v ∧
          affirmative.choices = t.choices ++ v.choices ++ u.choices ∧
          ∀ bs ∈ v.choices, ∀ b ∈ bs, b.mark = 0) ∧
        (negated.choices = t.choices ++ [as] ++ u.choices ∧ as ≠ [] ∧
          ∀ a ∈ as, a.mark = 1) := by
  obtain ⟨v, hv, hslots, hmarks⟩ := verb.compile_affirmative
  obtain ⟨w, as, hw, hslots', hchoices, hne, hmarks'⟩ := verb.compile_negated
  obtain ⟨affirmative, haffirmative, haslots, hachoices⟩ :=
    compile_between hperformer hv hproperty
  obtain ⟨negated, hnegated, hnslots, hnchoices⟩ :=
    compile_between hperformer hw hproperty
  refine ⟨affirmative, negated, v, as,
    by simp [conditionPatterns, haffirmative, hnegated], ⟨?_, ?_⟩,
    ⟨hv, hachoices, hmarks⟩, ?_, hne, hmarks'⟩
  · rw [haslots, hslots, List.append_nil]
  · rw [hnslots, hslots', List.append_nil]
  · rw [hnchoices, hchoices]

/-- Whenever the text of an owner and that of a property can be read, so can all patterns
that are put together from them. Their slots are those of the two texts in the order of
the pattern; the verb of a condition adds no mark in the affirmative, and in the negative
one choice of alternatives that all have the mark one. -/
theorem compile_phrasings
    [Regex.Dialect]
    {owner property : String} {t u : Tree}
    (howner : compile (ownerForm owner) = .ok t)
    (hproperty : compile property = .ok u) :
    (∃ possessive prepositional,
      (propertyPatterns owner property).map compile =
          [.ok possessive, .ok prepositional] ∧
        possessive.slots = t.slots ++ u.slots ∧
        prepositional.slots = u.slots ++ t.slots) ∧
      ∀ verb : Verb, ∃ affirmative negated v as,
        (conditionPatterns owner verb property).map compile =
            [.ok affirmative, .ok negated] ∧
          (affirmative.slots = t.slots ++ u.slots ∧ negated.slots = t.slots ++ u.slots) ∧
          (compile verb.affirmative = .ok v ∧
            affirmative.choices = t.choices ++ v.choices ++ u.choices ∧
            ∀ bs ∈ v.choices, ∀ b ∈ bs, b.mark = 0) ∧
          (negated.choices = t.choices ++ [as] ++ u.choices ∧ as ≠ [] ∧
            ∀ a ∈ as, a.mark = 1) :=
  ⟨compile_propertyPatterns howner hproperty, compile_conditionPatterns howner hproperty⟩

set_option maxRecDepth 4000 in
/-- A property with a slot and a marked choice of its own. -/
theorem compile_phrasings_marked :
    (∃ possessive prepositional,
      (propertyPatterns "a" "(2¦max|size) %b%").map compile =
          [.ok possessive, .ok prepositional] ∧
        possessive.slots = [⟨["a"], .both, false, false⟩, ⟨["b"], .both, false, false⟩] ∧
        prepositional.slots =
            [⟨["b"], .both, false, false⟩, ⟨["a"], .both, false, false⟩]) ∧
      ∃ affirmative negated as,
        (conditionPatterns "a" .have "(2¦max|size) %b%").map compile =
            [.ok affirmative, .ok negated] ∧
          negated.choices = [as, [⟨2, .text "max"⟩, ⟨0, .text "size"⟩]] ∧
          ∀ a ∈ as, a.mark = 1 := by
  have howner : compile (ownerForm "a") = .ok (.slot ⟨["a"], .both, false, false⟩) := by
    cbv
  have hproperty : compile "(2¦max|size) %b%" =
      .ok (.compound [.choice [⟨2, .text "max"⟩, ⟨0, .text "size"⟩], .text " ",
        .slot ⟨["b"], .both, false, false⟩]) := by
    cbv
  obtain ⟨hproperties, hconditions⟩ := compile_phrasings howner hproperty
  obtain ⟨affirmative, negated, v, as, hread, -, -, hchoices, -, hmarks⟩ :=
    hconditions .have
  exact ⟨hproperties, affirmative, negated, as, hread, hchoices, hmarks⟩

end Pattern
end TriggerScript
