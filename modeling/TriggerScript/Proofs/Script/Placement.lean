import TriggerScript.Proofs.Report.Queue
import TriggerScript.Proofs.Script.Block

/-!
# Scripts are put together as they are written

Feeding a script to an assembly that reports no error appends the nodes of its block,
with the links between them, and leaves everything else as it was.
-/

namespace TriggerScript
namespace Script

variable {H : Host}

open Report

namespace Assembly

/-- The nodes of an assembly once the statement that
comes next in its innermost open body is linked. -/
def linked
    (a : Assembly H) (next : Option StatementId) : List (Node H) :=
  match next with
  | none => a.nodes
  | some id =>
      match a.tail?, a.parent? with
      | some previous, _ => a.nodes.modify previous.raw fun n =>
          { n with next := some id }
      | none, some parent => a.nodes.modify parent.raw fun n =>
          { n with body := some id }
      | none, none => a.nodes

theorem length_linked
    (a : Assembly H) (next : Option StatementId) :
    (a.linked next).length = a.nodes.length := by
  unfold linked
  split
  · rfl
  · split
    · exact List.length_modify ..
    · exact List.length_modify ..
    · rfl

/-- A node at the end of nodes is the one that is modified at their number. -/
theorem modify_length_append
    {α : Type} {before behind : List α} {x : α} {n : Nat}
    (hn : n = before.length)
    (f : α → α) :
    (before ++ x :: behind).modify n f = before ++ f x :: behind := by
  subst hn
  induction before with
  | nil =>
      rfl
  | cons y before ih =>
      simpa using ih

theorem errorCount_le_reporting
    (a : Assembly H) (d : Diagnostic) :
    a.queue.errorCount ≤ (a.reporting d).queue.errorCount := by
  rw [reporting, Queue.errorCount_push, Queue.errorCountWith]
  split
  · exact Nat.le_succ _
  · exact Nat.le_refl _

theorem errorCount_le_effect
    (a : Assembly H) (e : Blueprint H (Effect H)) (es : List (Expression H))
    (info : MatchInfo) :
    a.queue.errorCount ≤ (a.effect e es info).2.queue.errorCount := by
  unfold effect
  split
  · exact Nat.le_refl _
  · split
    · exact Nat.le_refl _
    · exact errorCount_le_reporting a _

theorem errorCount_le_openSection
    (a : Assembly H) (s : Blueprint H (Section H)) (es : List (Expression H))
    (info : MatchInfo) :
    a.queue.errorCount ≤ (a.openSection s es info).2.queue.errorCount := by
  unfold openSection
  split
  · exact Nat.le_refl _
  · split
    · exact errorCount_le_reporting a _
    · exact Nat.le_refl _

theorem errorCount_le_closeSection
    (a : Assembly H) :
    a.queue.errorCount ≤ a.closeSection.queue.errorCount := by
  unfold closeSection
  split
  · exact Nat.le_refl _
  · split
    · exact Nat.le_refl _
    · exact errorCount_le_reporting a _

/-- Whether one statement was appended to an
assembly, with the nodes of its body behind it. -/
structure Extended
    (a : Assembly H) (statement : Statement H) (body : Option StatementId)
    (inside : List (Node H)) (b : Assembly H) : Prop where
  nodes : b.nodes =
    a.linked (some a.nextId) ++ ⟨statement, none, a.parent?, body⟩ :: inside
  first : b.first = if a.tail?.isNone && a.parent?.isNone then some a.nextId else a.first
  tails : b.tails = some a.nextId :: a.tails.tail
  state : b.state = a.state
  types : b.types = a.types
  accepting : b.refusedDepth = 0

/-- Whether a block was appended to an assembly, in its innermost open body. -/
structure Appended
    (a : Assembly H) (block : Block H) (b : Assembly H) : Prop where
  nodes : b.nodes = a.linked block.first? ++ block.nodes a.parent?
  first : b.first =
    if a.tail?.isNone && a.parent?.isNone then block.first?.or a.first else a.first
  tails : b.tails = block.last?.or a.tail? :: a.tails.tail
  state : b.state = a.state
  types : b.types = a.types
  accepting : b.refusedDepth = 0

variable {a b c : Assembly H} {statement : Statement H}

/-- An assembly accepts statements and has a place for them. -/
structure Open
    (a : Assembly H) : Prop where
  accepting : a.refusedDepth = 0
  tails_ne_nil : a.tails ≠ []

theorem extended_append
    (h : a.Open)
    (statement : Statement H) :
    Extended a statement none [] (a.append statement) where
  nodes := rfl
  first := rfl
  tails := rfl
  state := rfl
  types := rfl
  accepting := h.accepting

theorem Extended.isOpen
    {body : Option StatementId} {inside : List (Node H)}
    (h : Extended a statement body inside b) :
    b.Open where
  accepting := h.accepting
  tails_ne_nil := by
    rw [h.tails]
    exact List.cons_ne_nil _ _

theorem Extended.parent?_eq
    {body : Option StatementId} {inside : List (Node H)}
    (h : Extended a statement body inside b) :
    b.parent? = a.parent? := by
  rw [parent?, h.state, parent?]

theorem Extended.length_eq
    {body : Option StatementId} {inside : List (Node H)}
    (h : Extended a statement body inside b) :
    b.nodes.length = a.nodes.length + 1 + inside.length := by
  rw [h.nodes, List.length_append, length_linked, List.length_cons]
  omega

/-- What comes next is linked to the statement that was appended. -/
theorem Extended.linked_eq
    {body : Option StatementId} {inside : List (Node H)}
    (h : Extended a statement body inside b)
    (next : Option StatementId) :
    b.linked next =
      a.linked (some a.nextId) ++ ⟨statement, next, a.parent?, body⟩ :: inside := by
  have htail : b.tail? = some a.nextId := by
    rw [tail?, h.tails]
    rfl
  cases next with
  | none =>
      exact h.nodes
  | some id =>
      rw [linked, htail, h.nodes]
      exact modify_length_append (length_linked a _).symm _

theorem Open.appended_done
    (h : a.Open) :
    Appended a .done a where
  nodes := (List.append_nil _).symm
  first := by
    simp [Block.first?]
  tails := by
    obtain ⟨tail, tails, htails⟩ := List.exists_cons_of_ne_nil h.tails_ne_nil
    simp [Block.last?, tail?, htails]
  state := rfl
  types := rfl
  accepting := h.accepting

/-- A statement and a block behind it make up a block. -/
theorem Extended.appended
    {body : Option StatementId} {inside : List (Node H)} {rest block : Block H}
    (h : Extended a statement body inside b)
    (hrest : Appended b rest c)
    (hfirst : block.first? = some a.nextId)
    (hlast : block.last? = rest.last?.or (some a.nextId))
    (hnodes : block.nodes a.parent? =
      ⟨statement, rest.first?, a.parent?, body⟩ :: (inside ++ rest.nodes a.parent?)) :
    Appended a block c where
  nodes := by
    rw [hrest.nodes, h.linked_eq, h.parent?_eq, hfirst, hnodes, List.append_assoc,
      List.cons_append]
  first := by
    have htail : b.tail? = some a.nextId := by
      rw [tail?, h.tails]
      rfl
    rw [hrest.first, htail, h.first, hfirst]
    rfl
  tails := by
    have htail : b.tail? = some a.nextId := by
      rw [tail?, h.tails]
      rfl
    rw [hrest.tails, htail, h.tails, hlast]
    cases rest.last? <;> rfl
  state := hrest.state.trans h.state
  types := hrest.types.trans h.types
  accepting := hrest.accepting

/-- An assembly with a section at the end of its
innermost open body, which is open itself. -/
def entered
    (a : Assembly H) (s : Section H) (opened : OpenSection) : Assembly H :=
  { a.append (.ofSection s) with
    state := ⟨opened :: a.state.sections⟩
    tails := none :: some a.nextId :: a.tails.tail }

theorem Open.entered
    (h : a.Open)
    (s : Section H) (opened : OpenSection) :
    (a.entered s opened).Open :=
  ⟨h.accepting, List.cons_ne_nil _ _⟩

theorem length_entered
    (a : Assembly H) (s : Section H) (opened : OpenSection) :
    (a.entered s opened).nodes.length = a.nodes.length + 1 := by
  change (a.linked (some a.nextId) ++ [_]).length = _
  rw [List.length_append, length_linked, List.length_singleton]

/-- The first statement of a body is linked to its section. -/
theorem linked_entered
    (a : Assembly H) (s : Section H) {opened : OpenSection}
    (hid : opened.id = a.nextId)
    (next : Option StatementId) :
    (a.entered s opened).linked next =
      a.linked (some a.nextId) ++ [⟨.ofSection s, none, a.parent?, next⟩] := by
  cases next with
  | none =>
      rfl
  | some id =>
      change (a.append (.ofSection s)).nodes.modify opened.id.raw _ = _
      rw [hid]
      have hnodes : (a.append (.ofSection s)).nodes =
          a.linked (some a.nextId) ++ [⟨.ofSection s, none, a.parent?, none⟩] := rfl
      rw [hnodes]
      exact modify_length_append (length_linked a _).symm _

/-- A section is appended with the block of its body. -/
theorem Appended.extended
    {s : Section H} {inner : Block H} {opened : OpenSection}
    (hid : opened.id = a.nextId)
    (h : Appended (a.entered s opened) inner b) :
    Extended a (.ofSection s) inner.first? (inner.nodes (some a.nextId))
      b.closeSection := by
  have hclose : b.closeSection = { b with state := a.state, tails := b.tails.tail } := by
    rw [closeSection, if_neg (by simp [h.accepting]), h.state]
    rfl
  have hparent : (a.entered s opened).parent? = some a.nextId :=
    congrArg some hid
  rw [hclose]
  refine ⟨?_, ?_, ?_, rfl, h.types, h.accepting⟩
  · change b.nodes = _
    rw [h.nodes, hparent, linked_entered a s hid, List.append_assoc]
    rfl
  · change b.first = _
    rw [h.first, hparent]
    simp [entered, append]
  · change b.tails.tail = _
    rw [h.tails]
    rfl

/-- No error is taken back by feeding a script. -/
theorem errorCount_le_feed
    (source : Source H) (a : Assembly H) :
    a.queue.errorCount ≤ (source.feed a).queue.errorCount := by
  induction source generalizing a with
  | done =>
      exact Nat.le_refl _
  | effect e es info rest ih =>
      exact Nat.le_trans (errorCount_le_effect a e es info) (ih _)
  | jump es info rest ih =>
      exact Nat.le_trans (errorCount_le_effect a continueBlueprint es info) (ih _)
  | control c es info body rest ihBody ihRest =>
      calc
        a.queue.errorCount ≤ (a.openSection c.blueprint es info).2.queue.errorCount :=
          errorCount_le_openSection a c.blueprint es info
        _ ≤ (body.feed (a.openSection c.blueprint es info).2).queue.errorCount :=
          ihBody _
        _ ≤ (body.feed
          (a.openSection c.blueprint es info).2).closeSection.queue.errorCount :=
          errorCount_le_closeSection _
        _ ≤ _ := ihRest _

theorem errorCount_of_feed
    {source : Source H}
    (h : (source.feed a).queue.errorCount = 0) :
    a.queue.errorCount = 0 :=
  Nat.eq_zero_of_le_zero (Nat.le_trans (errorCount_le_feed source a) (Nat.le_of_eq h))

theorem errorCount_of_closeSection
    (h : a.closeSection.queue.errorCount = 0) :
    a.queue.errorCount = 0 :=
  Nat.eq_zero_of_le_zero (Nat.le_trans (errorCount_le_closeSection a) (Nat.le_of_eq h))

/-- What is placed behind a statement is placed with the numbers that follow. -/
theorem Extended.places
    {body : Option StatementId} {inside : List (Node H)}
    {rest : Source H} {block : Block H}
    (h : Extended a statement body inside b)
    (hplaces : Places b.types b.state.sections b.nodes.length rest block) :
    Places a.types a.state.sections (a.nodes.length + 1 + inside.length) rest block := by
  rwa [h.types, h.state, h.length_eq] at hplaces

/-- What a script is appended as when it is fed without an error. -/
def Feeds
    (source : Source H) (a : Assembly H) : Prop :=
  a.Open → (source.feed a).queue.errorCount = 0 →
    ∃ block, Places a.types a.state.sections a.nodes.length source block ∧
      Appended a block (source.feed a)

theorem not_feed_reporting
    {source : Source H} {d : Diagnostic} {b : Assembly H}
    (hb : (a.reporting d).queue.errorCount ≤ b.queue.errorCount)
    (hqueue : (source.feed b).queue.errorCount = 0) :
    d.isError = false := by
  rw [errorCount_of_feed hqueue, reporting, Queue.errorCount_push,
    Queue.errorCountWith] at hb
  cases herror : d.isError with
  | false =>
      rfl
  | true =>
      rw [herror] at hb
      cases hb

/-- An effect that is accepted is appended in front of the rest of a script. -/
theorem feeds_effect
    {e : Blueprint H (Effect H)} {es : List (Expression H)}
    {info : MatchInfo} {rest : Source H}
    (ih : ∀ {a}, Feeds rest a) :
    Feeds (.effect e es info rest) a := by
  intro h hqueue
  have hfeed :
      (Source.effect e es info rest).feed a = rest.feed (a.effect e es info).2 := rfl
  rw [hfeed] at hqueue ⊢
  cases hinit : e.init es (a.setting info) with
  | ok effect =>
      have heffect : (a.effect e es info).2 = a.append (.ofEffect effect) := by
        rw [Assembly.effect, if_neg (by simp [h.accepting]), hinit]
      rw [heffect] at hqueue ⊢
      have hextended := extended_append h (.ofEffect effect)
      obtain ⟨block, hplaces, hrest⟩ := ih hextended.isOpen hqueue
      exact ⟨.effect a.nextId effect block, .effect hinit (hextended.places hplaces),
        hextended.appended hrest rfl rfl rfl⟩
  | error d =>
      have heffect : (a.effect e es info).2 = a.reporting d := by
        rw [Assembly.effect, if_neg (by simp [h.accepting]), hinit]
      rw [heffect] at hqueue ⊢
      have hwarning := not_feed_reporting (Nat.le_refl _) hqueue
      have hopen : (a.reporting d).Open := ⟨h.accepting, h.tails_ne_nil⟩
      obtain ⟨block, hplaces, hrest⟩ := ih hopen hqueue
      exact ⟨block, .refused hinit hwarning hplaces,
        ⟨hrest.nodes, hrest.first, hrest.tails, hrest.state,
          hrest.types, hrest.accepting⟩⟩

theorem feeds_jump
    {es : List (Expression H)} {info : MatchInfo} {rest : Source H}
    (ih : ∀ {a}, Feeds rest a) :
    Feeds (.jump es info rest) a := by
  intro h hqueue
  have hfeed : (Source.jump es info rest).feed a =
      rest.feed (a.effect continueBlueprint es info).2 := rfl
  rw [hfeed] at hqueue ⊢
  rcases init_continueBlueprint_cases es (a.setting info) with
    ⟨hloop, hinit⟩ | ⟨d, hinit, herror⟩
  · have heffect : (a.effect continueBlueprint es info).2 =
        a.append (.ofEffect continueEffect) := by
      rw [Assembly.effect, if_neg (by simp [h.accepting]), hinit]
    rw [heffect] at hqueue ⊢
    have hextended := extended_append h (.ofEffect continueEffect)
    obtain ⟨block, hplaces, hrest⟩ := ih hextended.isOpen hqueue
    exact ⟨.jump a.nextId block, .jump hloop (hextended.places hplaces),
      hextended.appended hrest rfl rfl rfl⟩
  · have heffect : (a.effect continueBlueprint es info).2 = a.reporting d := by
      rw [Assembly.effect, if_neg (by simp [h.accepting]), hinit]
    rw [heffect] at hqueue
    have hwarning := not_feed_reporting (Nat.le_refl _) hqueue
    rw [herror] at hwarning
    cases hwarning

/-- A section is appended with its body in front of the rest of a script. -/
theorem feeds_control
    {c : Control} {es : List (Expression H)} {info : MatchInfo} {body rest : Source H}
    (ihBody : ∀ {a}, Feeds body a)
    (ihRest : ∀ {a}, Feeds rest a) :
    Feeds (.control c es info body rest) a := by
  intro h hqueue
  have hfeed : (Source.control c es info body rest).feed a =
      rest.feed (body.feed (a.openSection c.blueprint es info).2).closeSection := rfl
  rw [hfeed] at hqueue ⊢
  rcases c.init_cases es (a.setting info) with ⟨e, rfl, hinit⟩ | ⟨d, hinit, herror⟩
  · have hopen : (a.openSection c.blueprint [e] info).2 =
        a.entered (c.element e)
          ⟨a.nextId, (c.element e).isLoop, (c.element e).describe false⟩ := by
      rw [openSection, if_neg (by simp [h.accepting]), hinit]
      rfl
    rw [hopen] at hqueue ⊢
    have hbody := errorCount_of_closeSection (errorCount_of_feed hqueue)
    have hentered := h.entered (c.element e)
      ⟨a.nextId, (c.element e).isLoop, (c.element e).describe false⟩
    obtain ⟨inner, hinside, happended⟩ := ihBody hentered hbody
    have hextended := happended.extended rfl
    obtain ⟨block, hplaces, hrest⟩ := ihRest hextended.isOpen hqueue
    have hplaces := hextended.places hplaces
    rw [Block.length_nodes] at hplaces
    rw [length_entered] at hinside
    exact ⟨.control a.nextId c e inner block, .control hinside hplaces,
      hextended.appended hrest rfl rfl rfl⟩
  · have hopen :
        (a.openSection c.blueprint es info).2.queue = (a.reporting d).queue := by
      rw [openSection, if_neg (by simp [h.accepting]), hinit]
    have hle : (a.reporting d).queue.errorCount ≤
        (body.feed (a.openSection c.blueprint es
          info).2).closeSection.queue.errorCount := by
      rw [← hopen]
      exact Nat.le_trans (errorCount_le_feed body _) (errorCount_le_closeSection _)
    have hwarning := not_feed_reporting hle hqueue
    rw [herror] at hwarning
    cases hwarning

/-- A script that is fed without an error is appended as its block. -/
theorem feeds
    (source : Source H) {a : Assembly H} :
    Feeds source a := by
  induction source generalizing a with
  | done =>
      exact fun h _ => ⟨.done, .done, h.appended_done⟩
  | effect e es info rest ih =>
      exact feeds_effect ih
  | jump es info rest ih =>
      exact feeds_jump ih
  | control c es info body rest ihBody ihRest =>
      exact feeds_control ihBody ihRest

/-- Whether an assembly has no statement and no open section; it may have an event. -/
structure Blank
    (a : Assembly H) : Prop where
  nodes : a.nodes = []
  state : a.state = ParserState.initial
  first : a.first = none
  tails : a.tails = [none]
  accepting : a.refusedDepth = 0

theorem blank_start
    (types : TypeSystem) (limits : Limits) :
    (start types limits : Assembly H).Blank :=
  ⟨rfl, rfl, rfl, rfl, rfl⟩

/-- Setting the event leaves an assembly without statements as it is. -/
theorem Blank.setEvent
    (h : a.Blank)
    (event : Blueprint H (Event H)) (es : List (Expression H)) (info : MatchInfo) :
    (a.setEvent event es info).2.Blank := by
  unfold Assembly.setEvent
  split <;> exact ⟨h.nodes, h.state, h.first, h.tails, h.accepting⟩

/-- The script that is built from an assembly
without statements has the nodes of a block. -/
theorem Blank.build_feed
    {source : Source H} {t : Trigger H}
    (h : a.Blank)
    (hbuild : (source.feed a).build = .ok t) :
    ∃ block, Places a.types [] 0 source block ∧
      t.nodes = block.nodes none ∧ t.first = block.first? := by
  have hopen : a.Open := ⟨h.accepting, by simp [h.tails]⟩
  unfold build at hbuild
  split at hbuild
  · cases hbuild
  · rename_i herrors
    cases hbuild
    have hqueue : (source.feed a).queue.errorCount = 0 := by
      simpa [Queue.hasErrors] using herrors
    obtain ⟨block, hplaces, happended⟩ := feeds source hopen hqueue
    have hparent : a.parent? = none := by
      rw [parent?, h.state]
      rfl
    have htail : a.tail? = none := by
      rw [tail?, h.tails]
      rfl
    rw [h.state, h.nodes] at hplaces
    refine ⟨block, hplaces, ?_, ?_⟩
    · have hlinked : a.linked block.first? = [] := by
        rw [← List.length_eq_zero_iff, length_linked, h.nodes, List.length_nil]
      change (source.feed a).nodes = _
      rw [happended.nodes, hlinked, hparent, List.nil_append]
    · change (source.feed a).first = _
      rw [happended.first, htail, hparent, h.first]
      simp

end Assembly

end Script
end TriggerScript
