import TriggerScript.Proofs.Script.Layout
import TriggerScript.Script.Assembly

/-!
# Ledgers of assemblies

An assembly is reached by a journal: the list of all calls made on it, the newest first.
The ledger of a journal says what became of the calls without any links between
statements. It holds the event that was accepted last, the accepted statements with the
sections around them, and all sections that were opened and not closed yet, refused ones
too. A closing closes the section that was opened last, whether it was accepted or not.
-/

namespace TriggerScript
namespace Script

variable {H : Host}

namespace Assembly

/-- A call on an assembly. -/
inductive Operation (H : Host) where
  | setEvent (event : Blueprint H (Event H)) (es : List (Expression H))
    (info : MatchInfo)
  | expression (e : Blueprint H (Expression H)) (es : List (Expression H))
    (info : MatchInfo)
  | effect (e : Blueprint H (Effect H)) (es : List (Expression H)) (info : MatchInfo)
  | openSection (s : Blueprint H (Section H)) (es : List (Expression H))
    (info : MatchInfo)
  | closeSection

/-- Whether a call is answered with yes; closing a section has no answer. -/
def answer
    (a : Assembly H) : Operation H → Bool
  | .setEvent event es info => (a.setEvent event es info).1
  | .expression e es info => (a.expression e es info).1.isSome
  | .effect e es info => (a.effect e es info).1
  | .openSection s es info => (a.openSection s es info).1
  | .closeSection => false

/-- The assembly after a call. -/
def perform
    (a : Assembly H) : Operation H → Assembly H
  | .setEvent event es info => (a.setEvent event es info).2
  | .expression e es info => (a.expression e es info).2
  | .effect e es info => (a.effect e es info).2
  | .openSection s es info => (a.openSection s es info).2
  | .closeSection => a.closeSection

/-- All calls on an assembly, the newest first. -/
abbrev Journal (H : Host) := List (Operation H)

/-- The assembly that a journal leads to. -/
def after
    (types : TypeSystem) (limits : Report.Limits) : Journal H → Assembly H
  | [] => start types limits
  | op :: earlier => (after types limits earlier).perform op

end Assembly

/-- What became of the calls on an assembly. -/
structure Ledger (H : Host) where
  /-- The event that was accepted last. -/
  event : Option (Event H)
  /-- The accepted statements. -/
  layout : Layout H
  /-- The sections that are open, the innermost first; a refused one is only counted. -/
  sections : List (Option OpenSection)

namespace Ledger

open Assembly (Operation Journal)

def blank : Ledger H :=
  ⟨none, [], []⟩

/-- The accepted sections that are open, the innermost first. -/
def around
    (l : Ledger H) : List OpenSection :=
  l.sections.filterMap id

/-- Whether a refused section is open. -/
def isRefusing
    (l : Ledger H) : Bool :=
  l.sections.any Option.isNone

/-- What an element that is put here is told. -/
def setting
    (types : TypeSystem) (l : Ledger H) (info : MatchInfo) : Setting :=
  ⟨types, ⟨l.around⟩, info⟩

/-- Whether a call puts something into the script, or makes an expression. -/
def accepts
    (types : TypeSystem) (l : Ledger H) : Operation H → Bool
  | .setEvent event es info => (event.init es (l.setting types info)).isOk
  | .expression e es info => (e.init es (l.setting types info)).isOk
  | .effect e es info => !l.isRefusing && (e.init es (l.setting types info)).isOk
  | .openSection s es info => !l.isRefusing && (s.init es (l.setting types info)).isOk
  | .closeSection => false

def place
    (l : Ledger H) (statement : Statement H) : Ledger H :=
  { l with layout := l.layout ++ [⟨statement, l.around⟩] }

/-- Open a section, or a refused one. -/
def opening
    (l : Ledger H) (s : Option OpenSection) : Ledger H :=
  { l with sections := s :: l.sections }

/-- The section that is put in next, once it is open. -/
def nextSection
    (l : Ledger H) (s : Section H) : OpenSection :=
  ⟨⟨l.layout.length⟩, s.isLoop, s.describe false⟩

/-- The ledger after a call. -/
def record
    (types : TypeSystem) (l : Ledger H) : Operation H → Ledger H
  | .setEvent event es info =>
      match event.init es (l.setting types info) with
      | .ok event => { l with event := some event }
      | .error _ => l
  | .expression _ _ _ => l
  | .effect e es info =>
      if l.isRefusing then
        l
      else
        match e.init es (l.setting types info) with
        | .ok e => l.place (.ofEffect e)
        | .error _ => l
  | .openSection s es info =>
      if l.isRefusing then
        l.opening none
      else
        match s.init es (l.setting types info) with
        | .ok s => (l.place (.ofSection s)).opening (some (l.nextSection s))
        | .error _ => l.opening none
  | .closeSection => { l with sections := l.sections.tail }

/-- The ledger of a journal. -/
def ofJournal
    (types : TypeSystem) : Journal H → Ledger H
  | [] => blank
  | op :: earlier => (ofJournal types earlier).record types op

/-- The event line, if there is an event, and one line for each accepted statement; what
stands under an event is indented by one level more. -/
def describe
    (l : Ledger H) : String :=
  match l.event with
  | some e =>
      Trigger.line 0 ("on " ++ e.describe false ++ ":") ++ Layout.lines 1 l.layout
  | none => Layout.lines 0 l.layout

/-- The statements are nested, and the open sections go on up to the end. -/
structure Sound
    (l : Ledger H) : Prop where
  nested : l.layout.Nested
  admits : l.layout.Admits l.layout.length l.around

section Sound

variable {l : Ledger H} {types : TypeSystem}

theorem Sound.place
    (h : l.Sound)
    (statement : Statement H) :
    (l.place statement).Sound where
  nested := h.nested.append h.admits statement
  admits := by
    have hlength : (l.place statement).layout.length = l.layout.length + 1 := by
      simp [Ledger.place]
    rw [hlength]
    exact h.admits.behind statement

theorem Sound.opening_none
    (h : l.Sound) :
    (l.opening none).Sound where
  nested := h.nested
  admits := h.admits

theorem Sound.opening_section
    (h : l.Sound)
    (s : Section H) :
    ((l.place (.ofSection s)).opening (some (l.nextSection s))).Sound where
  nested := (h.place _).nested
  admits := by
    have hlength :
        ((l.place (.ofSection s)).opening (some (l.nextSection s))).layout.length =
          l.layout.length + 1 := by
      simp [Ledger.place, Ledger.opening]
    rw [hlength]
    exact h.admits.opened s

theorem Sound.closing
    (h : l.Sound) :
    Sound { l with sections := l.sections.tail } where
  nested := h.nested
  admits := by
    have hadmits := h.admits
    unfold around at hadmits ⊢
    cases hsections : l.sections with
    | nil =>
        rw [hsections] at hadmits
        exact hadmits
    | cons s sections =>
        rw [hsections] at hadmits
        cases s with
        | none =>
            exact hadmits
        | some s =>
            exact hadmits.closed h.nested

theorem Sound.record
    (h : l.Sound)
    (op : Operation H) :
    (l.record types op).Sound := by
  cases op with
  | setEvent event es info =>
      simp only [Ledger.record]
      split
      · exact ⟨h.nested, h.admits⟩
      · exact h
  | expression e es info =>
      exact h
  | effect e es info =>
      simp only [Ledger.record]
      split
      · exact h
      · split
        · exact h.place _
        · exact h
  | openSection s es info =>
      simp only [Ledger.record]
      split
      · exact h.opening_none
      · split
        · exact h.opening_section _
        · exact h.opening_none
  | closeSection =>
      exact h.closing

/-- The statements of every ledger are nested. -/
theorem sound_ofJournal
    (types : TypeSystem) (j : Journal H) :
    (ofJournal types j).Sound := by
  induction j with
  | nil =>
      refine ⟨?_, Layout.admits_nil _ _⟩
      intro n p hp
      cases hp
  | cons op earlier ih =>
      exact ih.record op

end Sound

section Growing

variable {l : Ledger H} {types : TypeSystem}

/-- Calls put statements in behind those that are there. -/
theorem isPrefix_layout_record
    (types : TypeSystem) (l : Ledger H) (op : Operation H) :
    l.layout <+: (l.record types op).layout := by
  cases op with
  | setEvent event es info =>
      simp only [record]
      split <;> exact List.prefix_rfl
  | expression e es info =>
      exact List.prefix_rfl
  | effect e es info =>
      simp only [record]
      split
      · exact List.prefix_rfl
      · split
        · exact List.prefix_append _ _
        · exact List.prefix_rfl
  | openSection s es info =>
      simp only [record]
      split
      · exact List.prefix_rfl
      · split
        · exact List.prefix_append _ _
        · exact List.prefix_rfl
  | closeSection =>
      exact List.prefix_rfl

theorem isPrefix_layout
    (types : TypeSystem) (behind earlier : Journal H) :
    (ofJournal types earlier).layout <+:
      (ofJournal types (behind ++ earlier)).layout := by
  induction behind with
  | nil =>
      exact List.prefix_rfl
  | cons op behind ih =>
      exact ih.trans (isPrefix_layout_record types _ op)

/-- An effect that is accepted is put in with the open sections around it. -/
theorem layout_record_effect
    {e : Blueprint H (Effect H)} {es : List (Expression H)} {info : MatchInfo}
    (haccepted : l.accepts types (.effect e es info) = true) :
    ∃ effect, e.init es (l.setting types info) = .ok effect ∧
      (l.record types (.effect e es info)).layout =
        l.layout ++ [⟨.ofEffect effect, l.around⟩] := by
  simp only [accepts, Bool.and_eq_true, Bool.not_eq_true'] at haccepted
  obtain ⟨hopen, hok⟩ := haccepted
  cases hinit : e.init es (l.setting types info) with
  | error d =>
      rw [hinit] at hok
      cases hok
  | ok effect =>
      refine ⟨effect, rfl, ?_⟩
      simp only [record, hopen, hinit]
      rfl

end Growing

end Ledger

end Script
end TriggerScript
