import Mathlib.Data.List.Forall2
import TriggerScript.Proofs.Catalog.Conversions
import TriggerScript.Proofs.Catalog.Reporting

/-!
# What declarations add

Types, converters, comparators and context values are published one after the other, and
each of them is taken up or else reported. So nothing is reported if and only if there is
an entry for each declaration in the end, in addition to what was there.
-/

namespace TriggerScript
namespace Catalog

open Script Report Typing Conversion Comparison

variable {H : Host} {σ δ ε : Type}

/-- Whether there is one more entry for each declaration
afterwards, and nothing else is added or lost. -/
def Adds
    (R : δ → ε → Prop) (declared : List δ) (before after : List ε) : Prop :=
  ∃ added, List.Forall₂ R declared added ∧ after.Perm (before ++ added)

theorem Adds.length_eq
    {R : δ → ε → Prop} {declared : List δ} {before after : List ε}
    (h : Adds R declared before after) :
    after.length = before.length + declared.length := by
  obtain ⟨added, hadded, hperm⟩ := h
  rw [hperm.length_eq, List.length_append, hadded.length_eq]

section Each

variable (Inv : σ → Prop) (R : σ → δ → ε → Prop) (view : σ → List ε)

/-- What a state is like once a declaration is taken up. -/
structure TakesUp
    (d : δ) (s s' : σ) : Prop where
  inv : Inv s'
  adds : ∃ e, view s' = view s ++ [e] ∧ R s' d e
  keeps : ∀ d' e, R s d' e → R s' d' e

/-- Whether declarations are published one after the
other, each of them taken up or else reported. -/
structure PublishesEach
    (publish : σ → Queue → List δ → σ × Queue) : Prop where
  nil : ∀ s queue, publish s queue [] = (s, queue)
  cons : ∀ s queue d ds, Inv s →
    (∃ s', TakesUp Inv R view d s s' ∧ publish s queue (d :: ds) = publish s' queue ds) ∨
      ∃ report, publish s queue (d :: ds) = publish s (queue.push report) ds

variable {Inv R view} {publish : σ → Queue → List δ → σ × Queue}

/-- As many entries are added as there are declarations without a report. -/
theorem PublishesEach.accounts
    (h : PublishesEach Inv R view publish)
    (s : σ) (queue : Queue) (ds : List δ)
    (hs : Inv s) :
    ∃ reports added,
      (publish s queue ds).2 = queue.extend reports ∧
      view (publish s queue ds).1 = view s ++ added ∧
      added.length + reports.length = ds.length ∧
      (reports = [] → List.Forall₂ (R (publish s queue ds).1) ds added) ∧
      ∀ d e, R s d e → R (publish s queue ds).1 d e := by
  induction ds generalizing s queue with
  | nil =>
      rw [h.nil]
      exact ⟨[], [], rfl, (List.append_nil _).symm, rfl, fun _ => .nil, fun _ _ hR => hR⟩
  | cons d ds ih =>
      rcases h.cons s queue d ds hs with ⟨s', htakes, hpublish⟩ | ⟨report, hpublish⟩
      · obtain ⟨reports, added, hqueue, hview, hlength, hall, hkeeps⟩ :=
          ih s' queue htakes.inv
        obtain ⟨e, hadds, he⟩ := htakes.adds
        rw [hpublish]
        refine ⟨reports, e :: added, hqueue, ?_, ?_, ?_, ?_⟩
        · rw [hview, hadds, List.append_assoc, List.singleton_append]
        · simp only [List.length_cons]
          omega
        · intro hnone
          exact .cons (hkeeps d e he) (hall hnone)
        · intro d' e' hR
          exact hkeeps d' e' (htakes.keeps d' e' hR)
      · obtain ⟨reports, added, hqueue, hview, hlength, -, hkeeps⟩ :=
          ih s (queue.push report) hs
        rw [hpublish]
        refine ⟨report :: reports, added, hqueue, hview, ?_, ?_, hkeeps⟩
        · simp only [List.length_cons]
          omega
        · intro hnone
          cases hnone

theorem PublishesEach.reports
    (h : PublishesEach Inv R view publish)
    (s : σ) (queue : Queue) (ds : List δ)
    (hs : Inv s) :
    queue.ReportsUnless (publish s queue ds).2
      (Adds (R (publish s queue ds).1) ds (view s) (view (publish s queue ds).1)) := by
  obtain ⟨reports, added, hqueue, hview, hlength, hall, -⟩ := h.accounts s queue ds hs
  refine ⟨reports, hqueue, ?_⟩
  constructor
  · intro hnone
    exact ⟨added, hall hnone, .of_eq hview⟩
  · intro hadds
    have htotal := hadds.length_eq
    rw [hview, List.length_append] at htotal
    exact List.length_eq_zero_iff.1 (by omega)

end Each

section Kinds

/-- Whether a registered type is the one that a
declaration stands for, and has its name. -/
structure EntersType
    (types : Typing.Registry) (d : TypeDeclaration) (t : TypeEntry) : Prop where
  name : t.name = d.name
  forms : t.forms = WordForms.ofPattern d.pattern
  abilities : t.abilities = d.abilities
  found : types.idOf? d.name = some t.id
  supertype : d.supertype.map types.idOf? = t.supertype.map some

/-- A supertype goes on having its name. -/
theorem map_idOf?_of_keeps
    {types types' : Typing.Registry} {name? : Option String} {above? : Option TypeId}
    (h : name?.map types.idOf? = above?.map some)
    (hkeeps : types.Keeps types') :
    name?.map types'.idOf? = above?.map some := by
  cases name? with
  | none =>
      exact h
  | some name =>
      cases above? with
      | none =>
          cases h
      | some above =>
          exact congrArg some (hkeeps.idOf?_eq_some (Option.some.inj h))

theorem EntersType.of_keeps
    {types types' : Typing.Registry} {d : TypeDeclaration} {t : TypeEntry}
    (h : EntersType types d t)
    (hkeeps : types.Keeps types') :
    EntersType types' d t := by
  exact ⟨h.name, h.forms, h.abilities, hkeeps.idOf?_eq_some h.found,
    map_idOf?_of_keeps h.supertype hkeeps⟩

/-- A type that is registered is put behind the others. -/
theorem entersType_of_register
    {types types' : Typing.Registry} {d : TypeDeclaration} {id : TypeId}
    (hsound : types.Sound)
    (h : types.register d = .ok (id, types')) :
    ∃ t, types'.entries = types.entries ++ [t] ∧ EntersType types' d t := by
  have hkeeps := hsound.keeps h
  obtain ⟨-, supertype, hsupertype, rfl, hresolved⟩ :=
    Registry.exists_insert_of_register h
  refine ⟨types.entryFor d supertype, rfl, rfl, rfl, rfl, Registry.idOf?_insert, ?_⟩
  exact map_idOf?_of_keeps hresolved hkeeps

theorem publishesEach_types :
    PublishesEach TypeSystem.Sound (fun s => EntersType s.types)
      (fun s => s.types.entries) publishTypes := by
  constructor
  · intro s queue
    rfl
  · intro s queue d ds hs
    rw [publishTypes]
    cases h : s.registerType d with
    | error refusal =>
        exact Or.inr ⟨_, rfl⟩
    | ok r =>
        obtain ⟨id, s'⟩ := r
        refine Or.inl ⟨s', ?_, rfl⟩
        have hsound := (hs.perform (.registerType d)).1
        simp only [TypeSystem.perform, h] at hsound
        obtain ⟨types, hregister, rfl⟩ := TypeSystem.registerType_ok h
        have hkeeps := hs.types.keeps hregister
        exact ⟨hsound, entersType_of_register hs.types hregister,
          fun d' t ht => ht.of_keeps hkeeps⟩

variable (types : Typing.Registry)

theorem publishesEach_converters :
    PublishesEach (fun s : TypeSystem => s.types = types)
      (fun _ d x => ConverterDeclaration.resolved? types d = some x)
      (fun s => s.converters.declared) publishConverters := by
  constructor
  · intro s queue
    rfl
  · rintro s queue d ds rfl
    rw [publishConverters]
    cases h : s.registerConverter d with
    | error refusal =>
        exact Or.inr ⟨_, rfl⟩
    | ok s' =>
        refine Or.inl ⟨s', ?_, rfl⟩
        obtain ⟨x, hresolved, -, rfl⟩ := TypeSystem.registerConverter_eq_ok_iff.1 h
        refine ⟨rfl, ⟨x, ?_, hresolved⟩, fun _ _ h => h⟩
        exact Conversion.Registry.declared_append _ _

theorem publishesEach_comparators :
    PublishesEach (fun s : TypeSystem => s.types = types)
      (fun _ d e => ComparatorDeclaration.resolved? types d = some e)
      (fun s => s.comparators) publishComparators := by
  constructor
  · intro s queue
    rfl
  · rintro s queue d ds rfl
    rw [publishComparators]
    cases h : s.registerComparator d with
    | error refusal =>
        exact Or.inr ⟨_, rfl⟩
    | ok s' =>
        refine Or.inl ⟨s', ?_, rfl⟩
        obtain ⟨e, hresolved, rfl⟩ := TypeSystem.resolved?_of_registerComparator h
        exact ⟨rfl, ⟨e, rfl, hresolved⟩, fun _ _ h => h⟩

/-- Whether a context value is the one that was declared, with its name in lower case. -/
structure EntersContextValue
    (v : PendingContextValue H) (w : ContextValue H) : Prop where
  context : w.context = v.context
  name : w.name = Text.lower v.name
  returnType : types.idOf? v.returnType = some w.returnType
  isSingle : w.isSingle = v.isSingle
  timeline : w.timeline = v.timeline
  usage : w.usage = v.usage
  excluded : w.excluded = v.excluded
  extract : w.extract = v.extract

/-- A context value that is added is put behind the others. -/
theorem entersContextValue_of_add
    {values values' : ContextValues H} {v : PendingContextValue H}
    (h : (resolveContextValue types v).bind values.add = .ok values') :
    ∃ w, values'.values = values.values ++ [w] ∧ EntersContextValue types v w := by
  unfold resolveContextValue at h
  cases htype : types.idOf? v.returnType with
  | none =>
      rw [htype] at h
      cases h
  | some id =>
      rw [htype] at h
      dsimp only [Except.bind, ContextValues.add] at h
      split at h
      · cases h
      · cases h
        exact ⟨_, rfl, rfl, rfl, htype, rfl, rfl, rfl, rfl, rfl⟩

theorem publishesEach_contextValues :
    PublishesEach (fun _ : ContextValues H => True) (fun _ => EntersContextValue types)
      ContextValues.values (publishContextValues types) := by
  constructor
  · intro values queue
    rfl
  · intro values queue v vs _
    rw [publishContextValues]
    cases h : (resolveContextValue types v).bind values.add with
    | error d =>
        exact Or.inr ⟨_, rfl⟩
    | ok values' =>
        exact Or.inl ⟨values',
          ⟨trivial, entersContextValue_of_add types h, fun _ _ h => h⟩, rfl⟩

end Kinds

end Catalog
end TriggerScript
