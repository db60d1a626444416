import TriggerScript.Script.Assembly
import TriggerScript.Script.ControlFlow

/-!
# Nested scripts

A script is written as statements inside of statements. Fed to an assembly it becomes a
flat list of linked nodes. Between the two stands the block of accepted statements: still
nested, but every statement with the identity that it has in the list.
-/

namespace TriggerScript
namespace Script

variable {H : Host}

/-- The sections that every script can use. -/
inductive Control where
  | loop
  | conditional

namespace Control

def blueprint : Control → Blueprint H (Section H)
  | .loop => loopBlueprint
  | .conditional => conditionalBlueprint

def element : Control → Expression H → Section H
  | .loop, e => Script.loop (some e)
  | .conditional, e => Script.conditional (some e)

def isLoop : Control → Bool
  | .loop => true
  | .conditional => false

theorem isLoop_element
    (c : Control) (e : Expression H) :
    (c.element e).isLoop = c.isLoop := by
  cases c <;> rfl

/-- A section accepts exactly one expression, and reports an error otherwise. -/
theorem init_cases
    (c : Control) (es : List (Expression H)) (setting : Setting) :
    (∃ e, es = [e] ∧ (blueprint c).init es setting = .ok (c.element e)) ∨
      ∃ d, (blueprint c).init es setting = .error d ∧ d.isError = true := by
  match es with
  | [] =>
      cases c <;> exact .inr ⟨_, rfl, rfl⟩
  | [e] =>
      cases c <;> exact .inl ⟨e, rfl, rfl⟩
  | _ :: _ :: _ =>
      cases c <;> exact .inr ⟨_, rfl, rfl⟩

end Control

/-- A jump is accepted inside of a loop, and reports an error otherwise. -/
theorem init_continueBlueprint_cases
    (es : List (Expression H)) (setting : Setting) :
    (setting.state.sections.any OpenSection.isLoop = true ∧
        continueBlueprint.init es setting = .ok continueEffect) ∨
      ∃ d, (continueBlueprint (H := H)).init es setting = .error d ∧
        d.isError = true := by
  cases h : setting.state.innermostLoop? with
  | none =>
      refine .inr ⟨(Report.Diagnostic.error .continueOutsideLoop).withMessage
        "you can only use `continue` in a loop", ?_, rfl⟩
      simp only [continueBlueprint, h]
  | some s =>
      have hmem := List.mem_of_find?_eq_some h
      have hloop := List.find?_some h
      exact .inl ⟨List.any_eq_true.2 ⟨s, hmem, hloop⟩,
        by simp only [continueBlueprint, h]⟩

/-- A script as it is written: effects, jumps to the
next iteration, and sections with their bodies. -/
inductive Source (H : Host) where
  | done
  | effect (e : Blueprint H (Effect H)) (es : List (Expression H)) (info : MatchInfo)
      (rest : Source H)
  | jump (es : List (Expression H)) (info : MatchInfo) (rest : Source H)
  | control (c : Control) (es : List (Expression H)) (info : MatchInfo)
    (body rest : Source H)

/-- Feed a script to an assembly, statement by statement. -/
def Source.feed : Source H → Assembly H → Assembly H
  | .done, a => a
  | .effect e es info rest, a => rest.feed (a.effect e es info).2
  | .jump es info rest, a => rest.feed (a.effect continueBlueprint es info).2
  | .control c es info body rest, a =>
      rest.feed (body.feed (a.openSection c.blueprint es info).2).closeSection

/-- Whether an effect runs what it executes, goes on with the
next statement, and leaves the states of sections alone. -/
def Effect.Ordinary
    (e : Effect H) : Prop :=
  ∀ v, e.walk v = (.next, e.execute v) ∧ (e.execute v).memory = v.memory

/-- Whether all effects of a script are ordinary ones, once they are accepted. -/
def Source.Ordinary : Source H → Prop
  | .done => True
  | .effect e es _ rest =>
      (∀ setting effect, e.init es setting = .ok effect → effect.Ordinary) ∧
        rest.Ordinary
  | .jump _ _ rest => rest.Ordinary
  | .control _ _ _ body rest => body.Ordinary ∧ rest.Ordinary

/-- Accepted statements with their identities. -/
inductive Block (H : Host) where
  | done
  | effect (id : StatementId) (e : Effect H) (rest : Block H)
  | jump (id : StatementId) (rest : Block H)
  | control (id : StatementId) (c : Control) (e : Expression H) (body rest : Block H)

namespace Block

def first? : Block H → Option StatementId
  | .done => none
  | .effect id _ _ => some id
  | .jump id _ => some id
  | .control id _ _ _ _ => some id

/-- The last statement of a block at its own level. -/
def last? : Block H → Option StatementId
  | .done => none
  | .effect id _ rest => rest.last?.or (some id)
  | .jump id rest => rest.last?.or (some id)
  | .control id _ _ _ rest => rest.last?.or (some id)

/-- The number of statements in a block, at every level. -/
def size : Block H → Nat
  | .done => 0
  | .effect _ _ rest => rest.size + 1
  | .jump _ rest => rest.size + 1
  | .control _ _ _ body rest => body.size + rest.size + 1

/-- The nodes of a block that is the body of a given section. -/
def nodes
    (parent : Option StatementId) : Block H → List (Node H)
  | .done => []
  | .effect _ e rest => ⟨.ofEffect e, rest.first?, parent, none⟩ :: rest.nodes parent
  | .jump _ rest =>
      ⟨.ofEffect continueEffect, rest.first?, parent, none⟩ :: rest.nodes parent
  | .control id c e body rest =>
      ⟨.ofSection (c.element e), rest.first?, parent, body.first?⟩ ::
        (body.nodes (some id) ++ rest.nodes parent)

theorem length_nodes
    (block : Block H) (parent : Option StatementId) :
    (block.nodes parent).length = block.size := by
  induction block generalizing parent with
  | done =>
      rfl
  | effect id e rest ih =>
      simp [nodes, size, ih]
  | jump id rest ih =>
      simp [nodes, size, ih]
  | control id c e body rest ihBody ihRest =>
      simp [nodes, size, ihBody, ihRest]

/-- Whether the statements of a block are numbered from a given number on, its effects
are ordinary ones, and its jumps have a loop around them. -/
def Proper : Block H → Bool → Nat → Prop
  | .done, _, _ => True
  | .effect id e rest, inLoop, n => id = ⟨n⟩ ∧ e.Ordinary ∧ rest.Proper inLoop (n + 1)
  | .jump id rest, inLoop, n => id = ⟨n⟩ ∧ inLoop = true ∧ rest.Proper inLoop (n + 1)
  | .control id c _ body rest, inLoop, n =>
      id = ⟨n⟩ ∧ body.Proper (c.isLoop || inLoop) (n + 1) ∧
        rest.Proper inLoop (n + 1 + body.size)

end Block

/-- The block of a script inside of open sections whose
statements are numbered from a given number on. An effect may
be left out with a warning; everything else is accepted. -/
inductive Places (types : TypeSystem) :
    List OpenSection → Nat → Source H → Block H → Prop
  | done
      {sections : List OpenSection} {n : Nat} :
      Places types sections n .done .done
  | effect
      {sections : List OpenSection} {n : Nat} {e : Blueprint H (Effect H)}
      {es : List (Expression H)} {info : MatchInfo} {rest : Source H}
      {effect : Effect H} {b : Block H}
      (accepted : e.init es ⟨types, ⟨sections⟩, info⟩ = .ok effect)
      (others : Places types sections (n + 1) rest b) :
      Places types sections n (.effect e es info rest) (.effect ⟨n⟩ effect b)
  | refused
      {sections : List OpenSection} {n : Nat} {e : Blueprint H (Effect H)}
      {es : List (Expression H)} {info : MatchInfo} {rest : Source H}
      {d : Report.Diagnostic} {b : Block H}
      (refused : e.init es ⟨types, ⟨sections⟩, info⟩ = .error d)
      (warning : d.isError = false)
      (others : Places types sections n rest b) :
      Places types sections n (.effect e es info rest) b
  | jump
      {sections : List OpenSection} {n : Nat} {es : List (Expression H)}
      {info : MatchInfo}
      {rest : Source H} {b : Block H}
      (inLoop : sections.any OpenSection.isLoop = true)
      (others : Places types sections (n + 1) rest b) :
      Places types sections n (.jump es info rest) (.jump ⟨n⟩ b)
  | control
      {sections : List OpenSection} {n : Nat} {c : Control} {e : Expression H}
      {info : MatchInfo} {body rest : Source H} {inner b : Block H}
      (inside : Places types
        (⟨⟨n⟩, (c.element e).isLoop, (c.element e).describe false⟩ :: sections)
        (n + 1) body inner)
      (others : Places types sections (n + 1 + inner.size) rest b) :
      Places types sections n (.control c [e] info body rest) (.control ⟨n⟩ c e inner b)

theorem Places.proper
    {types : TypeSystem} {sections : List OpenSection} {n : Nat} {source : Source H}
    {b : Block H}
    (h : Places types sections n source b)
    (hordinary : source.Ordinary) :
    b.Proper (sections.any OpenSection.isLoop) n := by
  induction h with
  | done =>
      trivial
  | effect accepted others ih =>
      exact ⟨rfl, hordinary.1 _ _ accepted, ih hordinary.2⟩
  | refused refused warning others ih =>
      exact ih hordinary.2
  | jump inLoop others ih =>
      exact ⟨rfl, inLoop, ih hordinary⟩
  | control inside others ihInside ihOthers =>
      have hbody := ihInside hordinary.1
      rw [List.any_cons, Control.isLoop_element] at hbody
      exact ⟨rfl, hbody, ihOthers hordinary.2⟩

end Script
end TriggerScript
