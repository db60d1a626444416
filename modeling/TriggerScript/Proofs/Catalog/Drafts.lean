import TriggerScript.Proofs.Catalog.Calls

/-!
# Abandoned declarations

A declaration is made up step by step, and goes into its registration at the end. It is
abandoned if it asks for a priority below zero, or is dropped before it is put in.
Nothing of it is in the registration then, with one exception: a context value that an
event declares for itself goes there at once, and stays whatever becomes of the event.
-/

namespace TriggerScript
namespace Catalog

open Script

variable {H : Host} {α σ : Type}

section Steps

/-- A step in making up a declaration with patterns. -/
inductive PhraseStep where
  | addPatterns (patterns : List String)
  | setPriority (priority : Int)

def PhraseStep.run [Phrased α]
    (d : Draft H α) : PhraseStep → Except RegistrationError (Draft H α)
  | .addPatterns patterns => .ok (d.addPatterns patterns)
  | .setPriority priority => d.withPriority priority

/-- A context value that an event declares for itself. -/
structure EventValue
    (H : Host) where
  context : ContextKind
  name : String
  returnType : String
  extract : H.Payload → List Data

/-- Declare such a context value on its own. -/
def EventValue.declare
    (r : Registration H) (v : EventValue H) : Registration H :=
  (r.newContextValue v.context v.name v.returnType v.extract).register

/-- A step in making up an event. -/
inductive EventStep
    (H : Host) where
  | phrase (step : PhraseStep)
  | handling (contexts : List ContextKind)
  | contextValue (v : EventValue H)

def EventStep.run
    (d : Draft H (PendingEvent H)) :
    EventStep H → Except RegistrationError (Draft H (PendingEvent H))
  | .phrase step => step.run d
  | .handling contexts => .ok (EventDraft.handling d contexts)
  | .contextValue v =>
      .ok (EventDraft.withContextValue d v.context v.name v.returnType v.extract)

/-- A step in making up a type. -/
inductive TypeStep where
  | supertype (name : String)
  | parser (parse : String → Option Data)
  | display (write : Value → String)
  | changer (change : Typing.Changer)
  | arithmetic (calculate : Typing.Arithmetic)

/-- The type after a step; none of them is refused. -/
def TypeStep.apply
    (t : Typing.TypeDeclaration) : TypeStep → Typing.TypeDeclaration
  | .supertype name => { t with supertype := some name }
  | .parser parse => { t with abilities := { t.abilities with parser := some parse } }
  | .display write => { t with abilities := { t.abilities with display := some write } }
  | .changer change =>
      { t with abilities := { t.abilities with changer := some change } }
  | .arithmetic calculate =>
      { t with abilities := { t.abilities with arithmetic := some calculate } }

def TypeStep.run
    (d : Draft H Typing.TypeDeclaration) (step : TypeStep) :
    Except RegistrationError (Draft H Typing.TypeDeclaration) :=
  .ok (d.map fun t => step.apply t)

/-- A step in making up a context value. -/
inductive ContextValueStep where
  | single (isSingle : Bool)
  | timeline (time : Timeline)
  | usage (use : Usage)
  | excluded (contexts : List ContextKind)

/-- The context value after a step; none of them is refused. -/
def ContextValueStep.apply
    (v : PendingContextValue H) : ContextValueStep → PendingContextValue H
  | .single isSingle => { v with isSingle := isSingle }
  | .timeline time => { v with timeline := time }
  | .usage use => { v with usage := use }
  | .excluded contexts => { v with excluded := v.excluded ++ contexts }

def ContextValueStep.run
    (d : Draft H (PendingContextValue H)) (step : ContextValueStep) :
    Except RegistrationError (Draft H (PendingContextValue H)) :=
  .ok (d.map fun v => step.apply v)

end Steps

section Completion

/-- What becomes of a declaration. -/
inductive Verdict where
  | registered
  /-- It is given up without being put into its registration. -/
  | dropped
  /-- A step of it is refused. -/
  | refused (reason : RegistrationError)

/-- A registration after a declaration was made up for it. -/
structure Completion
    (H : Host) where
  registration : Registration H
  verdict : Verdict

/-- Go on with another declaration if one was put into its registration. -/
def Completion.andThen
    (c : Completion H) (f : Registration H → Completion H) : Completion H :=
  match c.verdict with
  | .registered => f c.registration
  | _ => c

/-- Make up a declaration step by step. It is put into its registration if it is to be
kept, and no step of it is refused. -/
def Draft.complete [Declarable H α]
    (run : Draft H α → σ → Except RegistrationError (Draft H α)) (keep : Bool) :
    List σ → Draft H α → Completion H
  | [], d => if keep then ⟨d.register, .registered⟩ else ⟨d.abandon, .dropped⟩
  | step :: steps, d =>
      match run d step with
      | .ok d' => d'.complete run keep steps
      | .error e => ⟨d.abandon, .refused e⟩

end Completion

section Declarations

/-- A declaration with the steps in which it is made up, and whether it is to be kept at
the end. Conditions, tags and elements that are both expressions and effects are declared
by a single call, with a priority of their own or without. -/
inductive Declaration
    (H : Host) where
  | newExpression
      (e : Element H (Expression H)) (returnType : String) (isSingle : Bool)
      (patterns : List String) (steps : List PhraseStep) (keep : Bool)
  | newProperty
      (e : Element H (Expression H)) (returnType owner property : String)
      (steps : List PhraseStep) (keep : Bool)
  | newCondition
      (e : Element H (Expression H)) (performer : String) (verb : Pattern.Verb)
      (property : String) (priority : Option Int)
  | newExecutable
      (e : Element H (Expression H)) (f : Element H (Effect H)) (returnType : String)
      (isSingle : Bool) (patterns : List String) (priority : Option Int)
  | newEffect
      (e : Element H (Effect H)) (patterns : List String)
      (steps : List PhraseStep) (keep : Bool)
  | newSection
      (e : Element H (Section H)) (patterns : List String)
      (steps : List PhraseStep) (keep : Bool)
  | newEvent
      (e : Element H (Event H)) (patterns : List String)
      (steps : List (EventStep H)) (keep : Bool)
  | newType (name pattern : String) (steps : List TypeStep) (keep : Bool)
  | newContextValue (v : EventValue H) (steps : List ContextValueStep) (keep : Bool)
  | newTag (name : String) (blueprint : TagBlueprint) (priority : Option Int)

/-- The step of asking for a priority, if there is to be one. -/
def PhraseStep.asking
    (priority : Option Int) : List PhraseStep :=
  (priority.map .setPriority).toList

/-- What a call that may be refused leaves behind. -/
def Completion.ofCall
    (r : Registration H) : Except RegistrationError (Registration H) → Completion H
  | .ok r' => ⟨r', .registered⟩
  | .error e => ⟨r, .refused e⟩

/-- Make up a declaration for a registration. -/
def Declaration.carryOut
    (r : Registration H) : Declaration H → Completion H
  | .newExpression e returnType isSingle patterns steps keep =>
      (r.newExpression e returnType isSingle patterns).complete PhraseStep.run keep steps
  | .newProperty e returnType owner property steps keep =>
      (r.newProperty e returnType owner property).complete PhraseStep.run keep steps
  | .newCondition e performer verb property priority =>
      (r.newCondition e performer verb property).complete PhraseStep.run true
        (PhraseStep.asking priority)
  | .newExecutable e f returnType isSingle patterns priority =>
      -- the expression is in the registration when it comes to the effect
      ((r.newExpression e returnType isSingle patterns).complete PhraseStep.run true
        (PhraseStep.asking priority)).andThen fun r =>
          (r.newEffect f patterns).complete PhraseStep.run true
            (PhraseStep.asking priority)
  | .newEffect e patterns steps keep =>
      (r.newEffect e patterns).complete PhraseStep.run keep steps
  | .newSection e patterns steps keep =>
      (r.newSection e patterns).complete PhraseStep.run keep steps
  | .newEvent e patterns steps keep =>
      (r.newEvent e patterns).complete EventStep.run keep steps
  | .newType name pattern steps keep =>
      (r.newType name pattern).complete TypeStep.run keep steps
  | .newContextValue v steps keep =>
      (r.newContextValue v.context v.name v.returnType v.extract).complete
        ContextValueStep.run keep steps
  | .newTag name blueprint none => ⟨r.addTag name blueprint, .registered⟩
  | .newTag name blueprint (some priority) =>
      .ofCall r (r.addTagWithPriority name blueprint priority)

/-- Whether a step asks for a priority below zero. -/
def PhraseStep.isRefused : PhraseStep → Bool
  | .addPatterns _ => false
  | .setPriority priority => priority < 0

/-- The context values that an event declares for itself until a step is refused. -/
def EventStep.values : List (EventStep H) → List (EventValue H)
  | [] => []
  | .phrase step :: steps => if step.isRefused then [] else values steps
  | .handling _ :: steps => values steps
  | .contextValue v :: steps => v :: values steps

/-- The context values that go into the
registration before the declaration itself does. -/
def Declaration.eventValues : Declaration H → List (EventValue H)
  | .newEvent _ _ steps _ => EventStep.values steps
  | _ => []

end Declarations

section Steps

theorem PhraseStep.run_cases [Phrased α]
    (d : Draft H α) (step : PhraseStep) :
    (step.isRefused = true ∧ ∃ e, step.run d = .error e) ∨
      step.isRefused = false ∧ ∃ d', step.run d = .ok d' ∧
        d'.registration = d.registration := by
  cases step with
  | addPatterns patterns =>
      exact Or.inr ⟨rfl, _, rfl, rfl⟩
  | setPriority priority =>
      rw [run, isRefused, Draft.withPriority, checkPriority]
      by_cases h : priority < 0
      · refine Or.inl ⟨decide_eq_true h, .negativePriority priority, ?_⟩
        rw [if_pos h]
        rfl
      · refine Or.inr ⟨decide_eq_false h,
          d.map fun p => Phrased.setPriority p priority.toNat, ?_, rfl⟩
        rw [if_neg h]
        rfl

theorem PhraseStep.registration_run [Phrased α]
    {d d' : Draft H α} {step : PhraseStep}
    (h : step.run d = .ok d') :
    d'.registration = d.registration := by
  rcases step.run_cases d with ⟨-, e, he⟩ | ⟨-, d'', hd'', hsame⟩
  · rw [he] at h
    cases h
  · rw [hd''] at h
    cases h
    exact hsame

/-- A declaration whose steps leave the registration
as it is leaves nothing behind if it is abandoned. -/
theorem Draft.registration_complete [Declarable H α]
    {run : Draft H α → σ → Except RegistrationError (Draft H α)}
    (hrun : ∀ {d d' step}, run d step = .ok d' → d'.registration = d.registration)
    {keep : Bool} {steps : List σ} {d : Draft H α}
    (h : (d.complete run keep steps).verdict ≠ .registered) :
    (d.complete run keep steps).registration = d.registration := by
  induction steps generalizing d with
  | nil =>
      cases keep with
      | true =>
          exact absurd rfl h
      | false =>
          rfl
  | cons step steps ih =>
      rw [complete] at h ⊢
      cases hstep : run d step with
      | error e =>
          rfl
      | ok d' =>
          rw [hstep] at h
          exact (ih h).trans (hrun hstep)

theorem TypeStep.registration_run
    {d d' : Draft H Typing.TypeDeclaration} {step : TypeStep}
    (h : TypeStep.run d step = .ok d') :
    d'.registration = d.registration := by
  cases h
  rfl

theorem ContextValueStep.registration_run
    {d d' : Draft H (PendingContextValue H)} {step : ContextValueStep}
    (h : ContextValueStep.run d step = .ok d') :
    d'.registration = d.registration := by
  cases h
  rfl

/-- An event that is abandoned leaves the context
values behind that it declared for itself. -/
theorem registration_complete_event
    {keep : Bool} {steps : List (EventStep H)} {d : Draft H (PendingEvent H)}
    (h : (d.complete EventStep.run keep steps).verdict ≠ .registered) :
    (d.complete EventStep.run keep steps).registration =
      (EventStep.values steps).foldl EventValue.declare d.registration := by
  induction steps generalizing d with
  | nil =>
      cases keep with
      | true =>
          exact absurd rfl h
      | false =>
          rfl
  | cons step steps ih =>
      rw [Draft.complete] at h ⊢
      cases step with
      | phrase step =>
          rw [EventStep.run] at h ⊢
          rw [EventStep.values]
          rcases step.run_cases d with ⟨hrefused, e, he⟩ | ⟨hrefused, d', hd', hsame⟩
          · rw [he, if_pos hrefused]
            rfl
          · rw [hd'] at h ⊢
            rw [if_neg (by simp [hrefused]), ← hsame]
            exact ih h
      | handling contexts =>
          exact ih h
      | contextValue v =>
          exact ih h

end Steps

section Calls

/-- A declaration that is put into its registration
right after it asked for a priority. -/
theorem complete_asking [Phrased α] [Declarable H α]
    (d : Draft H α) (priority : Option Int) :
    d.complete PhraseStep.run true (PhraseStep.asking priority) =
      .ofCall d.registration (d.conclude priority) := by
  cases priority with
  | none =>
      rfl
  | some p =>
      rw [PhraseStep.asking, Option.map_some, Option.toList_some,
        Draft.complete, PhraseStep.run, Draft.conclude, Draft.registerWithPriority]
      cases d.withPriority p <;> rfl

theorem registration_ofCall
    {r : Registration H} {x : Except RegistrationError (Registration H)}
    (h : (Completion.ofCall r x).verdict ≠ .registered) :
    (Completion.ofCall r x).registration = r := by
  cases x with
  | error e =>
      rfl
  | ok r' =>
      exact absurd rfl h

/-- Expression and effect ask for the same priority,
so neither of them is declared without the other. -/
theorem carryOut_newExecutable
    (r : Registration H) (e : Element H (Expression H)) (f : Element H (Effect H))
    (returnType : String) (isSingle : Bool) (patterns : List String)
    (priority : Option Int) :
    (Declaration.newExecutable e f returnType isSingle patterns priority).carryOut r =
      .ofCall r
        (priority.elim (.ok (r.addExecutable e f returnType isSingle patterns))
          (r.addExecutableWithPriority e f returnType isSingle patterns)) := by
  rw [Declaration.carryOut, complete_asking]
  simp only [complete_asking]
  cases priority with
  | none =>
      rfl
  | some p =>
      simp only [Option.elim_some,
        Registration.addExecutableWithPriority, Draft.conclude,
        Draft.registerWithPriority, Draft.withPriority]
      cases checkPriority p <;> rfl

/-- Context values of events add to the context
values of a registration, and to nothing else. -/
theorem foldl_declare
    (r : Registration H) (values : List (EventValue H)) :
    { values.foldl EventValue.declare r with contextValues := r.contextValues } = r ∧
      (values.foldl EventValue.declare r).contextValues.length =
        r.contextValues.length + values.length := by
  induction values generalizing r with
  | nil =>
      exact ⟨rfl, rfl⟩
  | cons v values ih =>
      obtain ⟨hrest, hlength⟩ := ih (v.declare r)
      have hone : (v.declare r).contextValues.length = r.contextValues.length + 1 :=
        List.length_append
      rw [List.foldl_cons, hlength, hone, List.length_cons]
      constructor
      · exact congrArg
          (fun s : Registration H => { s with contextValues := r.contextValues }) hrest
      · omega

theorem foldl_declare_eq_iff
    (r : Registration H) (values : List (EventValue H)) :
    values.foldl EventValue.declare r = r ↔ values = [] := by
  constructor
  · intro h
    have hlength := (foldl_declare r values).2
    rw [h] at hlength
    exact List.length_eq_zero_iff.1 (by omega)
  · rintro rfl
    rfl

end Calls

/-- Whatever a registration holds, and whatever declaration is abandoned, because it asks
for a priority below zero or is dropped: nothing but context values are added to the
registration. These are the ones that an event declared for itself before it was
abandoned, and they are there as if each had been declared on its own; so the
registration is as it was before exactly if there are none of them, which is so for every
declaration but that of an event. -/
theorem registration_of_abandoned
    (r : Registration H) (d : Declaration H)
    (h : (d.carryOut r).verdict ≠ .registered) :
    (d.carryOut r).registration = d.eventValues.foldl EventValue.declare r ∧
      { (d.carryOut r).registration with contextValues := r.contextValues } = r ∧
      ((d.carryOut r).registration = r ↔ d.eventValues = []) := by
  have hleft :
      (d.carryOut r).registration = d.eventValues.foldl EventValue.declare r := by
    cases d with
    | newExecutable e f returnType isSingle patterns priority =>
        rw [carryOut_newExecutable] at h ⊢
        exact registration_ofCall h
    | newEvent e patterns steps keep =>
        exact registration_complete_event h
    | newType name pattern steps keep =>
        exact Draft.registration_complete TypeStep.registration_run h
    | newContextValue v steps keep =>
        exact Draft.registration_complete ContextValueStep.registration_run h
    | newTag name blueprint priority =>
        cases priority with
        | none =>
            exact absurd rfl h
        | some priority =>
            exact registration_ofCall h
    | _ =>
        exact Draft.registration_complete PhraseStep.registration_run h
  rw [hleft]
  exact ⟨rfl, (foldl_declare r d.eventValues).1, foldl_declare_eq_iff r d.eventValues⟩

section Greeting

/-- An event declares a context value for itself, and is dropped. -/
def droppedJoin : Declaration ⟨Unit, Unit⟩ :=
  let join : Event ⟨Unit, Unit⟩ :=
    { describe := fun _ => "", check := fun v => (true, v.world) }
  let who : EventValue ⟨Unit, Unit⟩ :=
    ⟨⟨0, "greeting"⟩, "who", "object", fun _ => [.text "me"]⟩
  .newEvent ⟨"join", join, fun _ _ => .ok join⟩ ["join"] [.contextValue who] false

/-- The context value is in the registration, and the event is not. -/
theorem registration_of_abandoned_join :
    let r : Registration ⟨Unit, Unit⟩ := Registration.empty "one"
    (droppedJoin.carryOut r).verdict ≠ .registered ∧
      (droppedJoin.carryOut r).registration.contextValues.map PendingContextValue.name =
          ["who"] ∧
      (droppedJoin.carryOut r).registration.events = [] ∧
      (droppedJoin.carryOut r).registration ≠ r := by
  intro r
  have hdropped : (droppedJoin.carryOut r).verdict ≠ .registered := by
    intro h
    cases h
  obtain ⟨hleft, hrest, hiff⟩ := registration_of_abandoned r droppedJoin hdropped
  refine ⟨hdropped, ?_, ?_, ?_⟩
  · rw [hleft]
    decide +kernel
  · exact congrArg Registration.events hrest
  · rw [Ne, hiff]
    exact List.cons_ne_nil _ _

/-- So a declaration that is abandoned need not leave its registration as it was. -/
theorem not_forall_registration_of_abandoned :
    ¬∀ (r : Registration ⟨Unit, Unit⟩) (d : Declaration ⟨Unit, Unit⟩),
        (d.carryOut r).verdict ≠ .registered → (d.carryOut r).registration = r := by
  intro hall
  have hsame := hall (Registration.empty "one") droppedJoin (by intro h; cases h)
  have hnone := congrArg (fun r => r.contextValues.length) hsame
  cases hnone

end Greeting

end Catalog
end TriggerScript
