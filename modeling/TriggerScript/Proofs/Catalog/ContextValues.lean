import Mathlib.Data.List.Basic
import TriggerScript.Catalog.ContextValue
import TriggerScript.Proofs.Text.Lower

/-!
# Context values and their positions

The positions of the values of a kind lead to exactly the values of that kind, in the
order in which they were added, so that looking up a value by its positions finds what a
search through all values finds. The names of added values are in lower case, which is
its own lower case. A value is therefore found again whatever the case of its name, and
another one of its kind, name and time is refused.
-/

namespace TriggerScript

namespace Script.ContextKind

theorem beq_iff
    {a b : ContextKind} :
    (a == b) = true ↔ a.key = b.key := by
  change (a.key == b.key) = true ↔ a.key = b.key
  exact beq_iff_eq

end Script.ContextKind

namespace Catalog

open Script

variable {H : Host}

namespace ContextValue

/-- Whether two values have the same kind, the
same name but for case, and the same time. -/
def Alike
    (v w : ContextValue H) : Prop :=
  (v.context == w.context) = true ∧ Text.lower v.name = Text.lower w.name ∧
    v.timeline = w.timeline

instance
    (v w : ContextValue H) : Decidable (v.Alike w) :=
  inferInstanceAs (Decidable (_ ∧ _ ∧ _))

/-- The value as it is kept. -/
def lowered
    (v : ContextValue H) : ContextValue H :=
  { v with name := Text.lower v.name }

theorem isNamed_lowered_iff
    {v w : ContextValue H}
    (hw : Text.lower w.name = w.name) :
    w.isNamed v.context v.lowered.name v.timeline = true ↔ w.Alike v := by
  simp only [isNamed, matchesLowered, lowered, Text.lower_lower,
    Bool.and_eq_true, beq_iff_eq, Alike, hw]
  exact and_right_comm.trans and_assoc

end ContextValue

namespace ContextValues

variable {vs : ContextValues H}

theorem lookup_addPosition
    (context kind : ContextKind) (i : Nat) (ps : List (ContextKind × List Nat)) :
    ((addPosition kind i ps).lookup context).getD [] =
      (ps.lookup context).getD [] ++ (if context == kind then [i] else []) := by
  induction ps with
  | nil =>
      by_cases h : context == kind <;> simp [addPosition, List.lookup_cons, h]
  | cons p ps ih =>
      obtain ⟨k, is⟩ := p
      rw [addPosition]
      by_cases hk : kind == k
      · have hsame : (context == k) = (context == kind) := by
          rw [Bool.eq_iff_iff, ContextKind.beq_iff, ContextKind.beq_iff,
            ContextKind.beq_iff.1 hk]
        rw [if_pos hk, List.lookup_cons, List.lookup_cons, hsame]
        by_cases hcontext : context == kind
        · simp [hcontext]
        · simp [hcontext]
      · rw [if_neg hk, List.lookup_cons, List.lookup_cons]
        by_cases hcontext : context == k
        · have hne : (context == kind) = false := by
            rw [Bool.eq_false_iff, ne_eq, ContextKind.beq_iff,
              ContextKind.beq_iff.1 hcontext]
            rw [ContextKind.beq_iff] at hk
            exact Ne.symm hk
          simp [hcontext, hne]
        · simp [hcontext, ih]

theorem positionsOf_add
    (context : ContextKind) (v : ContextValue H) (i : Nat) :
    positionsOf ⟨vs.values ++ [v], addPosition v.context i vs.positions⟩ context =
      vs.positionsOf context ++ (if context == v.context then [i] else []) :=
  lookup_addPosition context v.context i vs.positions

/-- Whether the positions of each kind lead to the
values of that kind, in their order. -/
structure Indexed
    (vs : ContextValues H) : Prop where
  lt_length : ∀ context, ∀ i ∈ vs.positionsOf context, i < vs.values.length
  values_eq :
    ∀ context, (vs.positionsOf context).filterMap (fun i => vs.values[i]?) =
      vs.values.filter fun v => v.context == context

theorem indexed_empty :
    (empty : ContextValues H).Indexed := by
  constructor
  · intro context i hi
    cases hi
  · intro context
    rfl

theorem Indexed.add
    (h : vs.Indexed) (v : ContextValue H) :
    Indexed ⟨vs.values ++ [v], addPosition v.context vs.values.length vs.positions⟩ := by
  constructor
  · intro context i hi
    rw [positionsOf_add] at hi
    rw [List.length_append, List.length_singleton]
    rcases List.mem_append.1 hi with hi | hi
    · have hlt := h.lt_length context i hi
      omega
    · split at hi
      · rw [List.mem_singleton.1 hi]
        omega
      · cases hi
  · intro context
    have hold : (vs.positionsOf context).filterMap (fun i => (vs.values ++ [v])[i]?) =
        (vs.positionsOf context).filterMap fun i => vs.values[i]? := by
      refine List.filterMap_congr ?_
      intro i hi
      exact List.getElem?_append_left (h.lt_length context i hi)
    have hsame : (v.context == context) = (context == v.context) := by
      rw [Bool.eq_iff_iff, ContextKind.beq_iff, ContextKind.beq_iff, eq_comm]
    rw [positionsOf_add, List.filterMap_append, hold, h.values_eq, List.filter_append]
    by_cases hcontext : context == v.context <;> simp [hcontext, hsame]

/-- By its positions a value is found where a search through all values finds it. -/
theorem Indexed.find?_eq
    (h : vs.Indexed)
    (context : ContextKind) (name : String) (timeline : Timeline) :
    vs.find? context name timeline =
      vs.values.find? fun v => v.isNamed context name timeline := by
  have hkind : ∀ v : ContextValue H,
      ((v.context == context) && v.matchesLowered context (Text.lower name) timeline) =
        v.isNamed context name timeline := by
    intro v
    rw [ContextValue.isNamed, ContextValue.matchesLowered,
      Bool.and_assoc, ← Bool.and_assoc, Bool.and_self]
  rw [find?, h.values_eq, List.find?_filter]
  simp only [Bool.decide_and, Bool.decide_eq_true, hkind]

/-- Whether the values are as adding leaves them: with their positions, with names in
lower case, and no two of them alike. -/
structure Sound
    (vs : ContextValues H) : Prop extends vs.Indexed where
  lower_name : ∀ v ∈ vs.values, Text.lower v.name = v.name
  distinct : vs.values.Pairwise fun v w => ¬v.Alike w

theorem sound_empty :
    (empty : ContextValues H).Sound where
  toIndexed := indexed_empty
  lower_name := List.forall_mem_nil _
  distinct := List.Pairwise.nil

theorem add_of_find?_eq_some
    {v w : ContextValue H}
    (h : vs.find? v.context v.lowered.name v.timeline = some w) :
    vs.add v = .error (alreadyRegistered v.lowered) := by
  rw [ContextValue.lowered] at h
  simp only [add, h, ContextValue.lowered]

theorem add_of_find?_eq_none
    {v : ContextValue H}
    (h : vs.find? v.context v.lowered.name v.timeline = none) :
    vs.add v =
      .ok ⟨vs.values ++ [v.lowered],
        addPosition v.context vs.values.length vs.positions⟩ := by
  rw [ContextValue.lowered] at h
  simp only [add, h, ContextValue.lowered]

/-- What adding a value comes to: it is refused if a value like it is there already. -/
theorem Sound.add_cases
    (h : vs.Sound) (v : ContextValue H) :
    ((∃ w ∈ vs.values, w.Alike v) ∧ vs.add v = .error (alreadyRegistered v.lowered)) ∨
      ((∀ w ∈ vs.values, ¬w.Alike v) ∧
        vs.add v =
          .ok ⟨vs.values ++ [v.lowered],
            addPosition v.context vs.values.length vs.positions⟩) := by
  have hsearch := h.find?_eq v.context v.lowered.name v.timeline
  cases hfound : vs.values.find? fun w =>
    w.isNamed v.context v.lowered.name v.timeline with
  | some w =>
      have hw := List.mem_of_find?_eq_some hfound
      have hnamed := List.find?_some hfound
      refine Or.inl
        ⟨⟨w, hw, (ContextValue.isNamed_lowered_iff (h.lower_name w hw)).1 hnamed⟩, ?_⟩
      exact add_of_find?_eq_some (hsearch.trans hfound)
  | none =>
      refine Or.inr ⟨?_, add_of_find?_eq_none (hsearch.trans hfound)⟩
      intro w hw halike
      refine List.find?_eq_none.1 hfound w hw ?_
      exact (ContextValue.isNamed_lowered_iff (h.lower_name w hw)).2 halike

theorem Sound.append
    (h : vs.Sound)
    {v : ContextValue H}
    (hnew : ∀ w ∈ vs.values, ¬w.Alike v) :
    Sound ⟨vs.values ++ [v.lowered],
      addPosition v.context vs.values.length vs.positions⟩ where
  toIndexed := h.toIndexed.add v.lowered
  lower_name := by
    refine List.forall_mem_append.2 ⟨h.lower_name, List.forall_mem_singleton.2 ?_⟩
    exact Text.lower_lower v.name
  distinct := by
    refine List.pairwise_append.2 ⟨h.distinct, List.pairwise_singleton _ _, ?_⟩
    intro w hw v' hv' halike
    rw [List.mem_singleton.1 hv'] at halike
    obtain ⟨hcontext, hname, htimeline⟩ := halike
    exact hnew w hw ⟨hcontext, hname.trans (Text.lower_lower v.name), htimeline⟩

/-- The values after a call that adds one; a refused one changes nothing. -/
def enter
    (vs : ContextValues H) (v : ContextValue H) : ContextValues H :=
  match vs.add v with
  | .ok vs' => vs'
  | .error _ => vs

/-- The values after several calls, the first of them first. -/
def enterAll
    (vs : ContextValues H) (added : List (ContextValue H)) : ContextValues H :=
  added.foldl enter vs

theorem Sound.enter
    (h : vs.Sound) (v : ContextValue H) :
    (vs.enter v).Sound := by
  rw [ContextValues.enter]
  rcases h.add_cases v with ⟨-, hadd⟩ | ⟨hnew, hadd⟩
  · rw [hadd]
    exact h
  · rw [hadd]
    exact h.append hnew

theorem sound_enterAll
    (added : List (ContextValue H)) :
    ((empty : ContextValues H).enterAll added).Sound :=
  List.foldlRecOn added ContextValues.enter sound_empty fun _ hvs v _ => hvs.enter v

/-- Whatever values were added, or refused: no two of those that are kept have the same
kind, the same name but for case, and the same time. A value is refused exactly if one of
them has its kind, name and time, and all calls after that come to what they come to
without it; else it is put behind the others. For a kind, a name in any case and a time,
the first of all values is found that has these, if any has. -/
theorem find?_enterAll
    (added : List (ContextValue H)) :
    let vs := (empty : ContextValues H).enterAll added
    (vs.values.Pairwise fun v w => ¬v.Alike w) ∧
      (∀ v, (∃ d, vs.add v = .error d) ↔ ∃ w ∈ vs.values, w.Alike v) ∧
      (∀ v more, (∃ d, vs.add v = .error d) →
        vs.enterAll (v :: more) = vs.enterAll more) ∧
      (∀ v vs', vs.add v = .ok vs' → vs'.values = vs.values ++ [v.lowered]) ∧
      ∀ context name timeline,
        vs.find? context name timeline =
          vs.values.find? fun v => v.isNamed context name timeline := by
  intro vs
  have hsound : vs.Sound := sound_enterAll added
  refine ⟨hsound.distinct, ?_, ?_, ?_, hsound.find?_eq⟩
  · intro v
    rcases hsound.add_cases v with ⟨hthere, hadd⟩ | ⟨hnew, hadd⟩
    · exact ⟨fun _ => hthere, fun _ => ⟨_, hadd⟩⟩
    · rw [hadd]
      constructor
      · rintro ⟨d, hd⟩
        cases hd
      · rintro ⟨w, hw, halike⟩
        exact absurd halike (hnew w hw)
  · rintro v more ⟨d, hd⟩
    have hsame : vs.enter v = vs := by
      rw [enter, hd]
    exact congrArg (fun vs : ContextValues H => vs.enterAll more) hsame
  · intro v vs' hok
    rcases hsound.add_cases v with ⟨-, hadd⟩ | ⟨-, hadd⟩
    · rw [hadd] at hok
      cases hok
    · rw [hadd] at hok
      cases hok
      rfl

/-- A value of greetings, for hosts whose contexts carry a text. -/
def greeted
    (name : String) (timeline : Timeline) : ContextValue ⟨String, Unit⟩ :=
  { context := ⟨0, "greeting"⟩
    name := name
    returnType := TypeId.object
    isSingle := true
    timeline := timeline
    usage := .both
    excluded := []
    extract := fun text => [.text text] }

/-- Who is greeted now and who was greeted before are
two values, but each of them can only be added once. -/
theorem find?_enterAll_greeted :
    let vs := (empty : ContextValues ⟨String, Unit⟩).enterAll
      [greeted "Who" .present, greeted "who" .past]
    (∃ d, vs.add (greeted "WHO" .past) = .error d) ∧
      vs.enterAll [greeted "WHO" .past, greeted "mood" .past] =
          vs.enterAll [greeted "mood" .past] ∧
      (∃ vs', vs.add (greeted "Mood" .past) = .ok vs' ∧
        vs'.values = vs.values ++ [greeted "mood" .past]) ∧
      (vs.find? ⟨0, "greeting"⟩ "wHo" .past).map ContextValue.name = some "who" := by
  intro vs
  obtain ⟨-, hrefused, hsame, hbehind, hfind⟩ :=
    find?_enterAll [greeted "Who" .present, greeted "who" .past]
  have hwho : ∃ d, vs.add (greeted "WHO" .past) = .error d := by
    refine (hrefused _).2 ?_
    decide +kernel
  have hlowered : (greeted "Mood" .past).lowered = greeted "mood" .past := by
    have hmood : Text.lower "Mood" = "mood" := by decide +kernel
    rw [ContextValue.lowered, greeted, hmood, greeted]
  refine ⟨hwho, hsame _ _ hwho, ?_, ?_⟩
  · cases hadd : vs.add (greeted "Mood" .past) with
    | error d =>
        refine absurd ((hrefused _).1 ⟨d, hadd⟩) ?_
        decide +kernel
    | ok vs' =>
        refine ⟨vs', rfl, ?_⟩
        rw [← hlowered]
        exact hbehind _ vs' hadd
  · rw [hfind]
    decide +kernel

end ContextValues

end Catalog
end TriggerScript
