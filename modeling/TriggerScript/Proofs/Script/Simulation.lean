import TriggerScript.Proofs.Script.Placement
import TriggerScript.Proofs.Script.Stepping

/-!
# Walks do what nested scripts say

A walk through the flat list of linked nodes does what the interpreter of the nested
script does: it comes to its end, runs the same effects in the same order with the same
loop values, and leaves no section active and no state behind.
-/

namespace TriggerScript
namespace Script

variable {H : Host}

namespace Block

/-- Whether the statements of a block are those of
a trigger, as the body of a given section. -/
def In
    (t : Trigger H) (parent : Option StatementId) : Block H → Prop
  | .done => True
  | .effect id e rest =>
      t.node? id = some ⟨.ofEffect e, rest.first?, parent, none⟩ ∧ rest.In t parent
  | .jump id rest =>
      t.node? id = some ⟨.ofEffect continueEffect, rest.first?, parent, none⟩ ∧
        rest.In t parent
  | .control id c e body rest =>
      t.node? id = some ⟨.ofSection (c.element e), rest.first?, parent, body.first?⟩ ∧
        body.In t (some id) ∧ rest.In t parent

theorem node?_of_nodes
    {t : Trigger H} {before behind : List (Node H)} {node : Node H}
    (h : t.nodes = before ++ node :: behind) :
    t.node? ⟨before.length⟩ = some node := by
  rw [Trigger.node?, h, List.getElem?_append_right (Nat.le_refl _), Nat.sub_self]
  rfl

/-- The nodes of a block behind some others are found at their numbers. -/
theorem in_of_nodes
    {t : Trigger H} {block : Block H} {inLoop : Bool} {before behind : List (Node H)}
    {parent : Option StatementId}
    (h : block.Proper inLoop before.length)
    (hnodes : t.nodes = before ++ (block.nodes parent ++ behind)) :
    block.In t parent := by
  induction block generalizing inLoop before behind parent with
  | done =>
      trivial
  | effect id e rest ih =>
      obtain ⟨rfl, -, hrest⟩ := h
      refine ⟨node?_of_nodes hnodes, ?_⟩
      rw [nodes, List.cons_append, List.append_cons] at hnodes
      exact ih (by simpa using hrest) hnodes
  | jump id rest ih =>
      obtain ⟨rfl, -, hrest⟩ := h
      refine ⟨node?_of_nodes hnodes, ?_⟩
      rw [nodes, List.cons_append, List.append_cons] at hnodes
      exact ih (by simpa using hrest) hnodes
  | control id c e body rest ihBody ihRest =>
      obtain ⟨rfl, hbody, hrest⟩ := h
      refine ⟨node?_of_nodes hnodes, ?_, ?_⟩
      · rw [nodes, List.cons_append, List.append_cons,
          List.append_assoc (body.nodes _)] at hnodes
        exact ihBody (by simpa using hbody) hnodes
      · rw [nodes, List.cons_append, List.append_cons, List.append_assoc (body.nodes _),
          ← List.append_assoc] at hnodes
        refine ihRest (?_ : rest.Proper inLoop _) hnodes
        rw [List.length_append, List.length_append, length_nodes]
        exact hrest

/-- A proper block starts with the number that it is numbered from. -/
theorem Proper.first?_eq
    {block : Block H} {inLoop : Bool} {n : Nat}
    (h : block.Proper inLoop n) :
    (block = .done ∧ block.first? = none) ∨
      (block.first? = some ⟨n⟩ ∧ 0 < block.size) := by
  cases block with
  | done =>
      exact .inl ⟨rfl, rfl⟩
  | effect id e rest =>
      exact .inr ⟨congrArg some h.1, Nat.succ_pos _⟩
  | jump id rest =>
      exact .inr ⟨congrArg some h.1, Nat.succ_pos _⟩
  | control id c e body rest =>
      exact .inr ⟨congrArg some h.1, Nat.succ_pos _⟩

/-- The walk in front of a block. -/
def start
    (block : Block H) (scope : Scope) (w : World H) : Walk H :=
  Trigger.arrive? (block.first?.or scope.parent?) (scope.invocation w)

theorem start_eq
    {block : Block H} {n : Nat} {scope : Scope}
    (hordered : scope.Ordered n)
    (hfirst : block.first? = some ⟨n⟩)
    (w : World H) :
    block.start scope w = ⟨some ⟨⟨n⟩, .enter⟩, scope.invocation w⟩ := by
  rw [start, hfirst]
  exact Trigger.arrive_of_ordered hordered

end Block

/-- The walk behind a block that ends in a given way. -/
def Scope.exit
    (scope : Scope) (outcome : Outcome) (w : World H) : Walk H :=
  match outcome with
  | .ended => Trigger.arrive? scope.parent? (scope.invocation w)
  | .jumped =>
      ⟨scope.fromLoop.parent?.map (⟨·, .nextIteration⟩), scope.fromLoop.invocation w⟩

namespace Trigger

variable {t : Trigger H} {n : Nat} {scope : Scope} {w : World H}

theorem withStore_invocation
    {store : Store H}
    (h : store.memory = scope.memory) :
    (scope.invocation w).withStore store = scope.invocation store.world := by
  obtain ⟨world, memory⟩ := store
  cases h
  rfl

theorem stepEffect_of_ordinary
    {e : Effect H} {rest : Block H}
    (hnode : t.node? ⟨n⟩ = some ⟨.ofEffect e, rest.first?, scope.parent?, none⟩)
    (hordinary : e.Ordinary) :
    t.stepEffect ⟨n⟩ e (scope.invocation w) =
      rest.start scope (e.execute (scope.invocation w)).world := by
  obtain ⟨hwalk, hmemory⟩ := hordinary (scope.invocation w)
  rw [stepEffect, hwalk]
  dsimp only
  rw [withStore_invocation hmemory, successor?, hnode]
  rfl

/-- A jump leads to the innermost loop. -/
theorem stepEffect_continueEffect
    (hordered : scope.Ordered n)
    (hloop : scope.any Frame.isLoop = true) :
    t.stepEffect ⟨n⟩ continueEffect (scope.invocation w) = scope.exit .jumped w := by
  obtain ⟨f, outer, hfrom⟩ := List.exists_cons_of_ne_nil (Scope.fromLoop_ne_nil hloop)
  have hwalk : continueEffect.walk (scope.invocation w) =
      (.redirect f.id true, (scope.invocation w).toStore) := by
    have hinnermost := Scope.innermostLoop?_invocation scope w
    rw [hfrom] at hinnermost
    simp only [continueEffect, hinnermost]
    rfl
  rw [stepEffect, hwalk]
  dsimp only
  rw [withStore_invocation rfl, Scope.unwindTo_fromLoop hordered hfrom,
    Scope.exit, hfrom]
  rfl

section Sections

variable {c : Control} {e : Expression H} {body rest : Block H} {inLoop : Bool}

/-- The node of a section that stands inside of a scope. -/
def sectionNode
    (c : Control) (e : Expression H) (body rest : Block H) (scope : Scope) : Node H :=
  ⟨.ofSection (c.element e), rest.first?, scope.parent?, body.first?⟩

/-- What follows a section is not its body. -/
theorem after_ne_body
    (hordered : scope.Ordered n)
    (hbody : body.Proper inLoop (n + 1))
    (hrest : ∃ inLoop, rest.Proper inLoop (n + 1 + body.size)) :
    ∀ id, rest.first?.or scope.parent? = some id → body.first? ≠ some id := by
  intro id hafter hfirst
  obtain ⟨inLoop, hrest⟩ := hrest
  rcases hbody.first?_eq with ⟨-, hnone⟩ | ⟨hsome, hsize⟩
  · rw [hnone] at hfirst
    cases hfirst
  · rw [hsome] at hfirst
    cases hfirst
    rcases hrest.first?_eq with ⟨-, hnone⟩ | ⟨hsome, -⟩
    · rw [hnone, Option.none_or] at hafter
      obtain ⟨f, hf, hid⟩ := Option.map_eq_some_iff.1 hafter
      exact (hordered.mono (Nat.le_succ n)).ne f (List.mem_of_mem_head? hf) hid
    · rw [hsome, Option.some_or] at hafter
      have hraw : n + 1 + body.size = n + 1 :=
        congrArg StatementId.raw (Option.some.inj hafter)
      omega

theorem place_sectionNode
    (hnode : t.node? ⟨n⟩ = some (sectionNode c e body rest scope)) :
    t.place ⟨n⟩ (sectionNode c e body rest scope) =
      ⟨⟨n⟩, body.first?, rest.first?.or scope.parent?⟩ := by
  rw [place, successor?, hnode]
  rfl

/-- A section that goes to its body gets a frame if it was not in its body before. -/
theorem stepSection_body
    {entry : Entry} {store : Store H} {v : Invocation H} {b : StatementId}
    (hnode : t.node? ⟨n⟩ = some (sectionNode c e body rest scope))
    (hfirst : body.first? = some b)
    (hwalk : (c.element e).walk v
      ⟨⟨n⟩, body.first?, rest.first?.or scope.parent?⟩ entry =
      (body.first?, store)) :
    t.stepSection ⟨⟨n⟩, entry⟩ (sectionNode c e body rest scope) (c.element e) v =
      ⟨some ⟨b, .enter⟩,
        if entry = .enter then (v.withStore store).push ⟨⟨n⟩, c.isLoop⟩
        else v.withStore store⟩ := by
  rw [stepSection, place_sectionNode hnode, hwalk, hfirst, Control.isLoop_element]
  dsimp only
  rw [if_pos (by simp [sectionNode, hfirst])]
  rfl

/-- A section that does not go to its body is left for what follows it. -/
theorem stepSection_after
    {entry : Entry} {store : Store H} {v : Invocation H}
    (hnode : t.node? ⟨n⟩ = some (sectionNode c e body rest scope))
    (hne : ∀ id, rest.first?.or scope.parent? = some id → body.first? ≠ some id)
    (hwalk : (c.element e).walk v
      ⟨⟨n⟩, body.first?, rest.first?.or scope.parent?⟩ entry =
      (rest.first?.or scope.parent?, store))
    (hleave : (v.withStore store).leave ⟨n⟩ = scope.invocation store.world) :
    t.stepSection ⟨⟨n⟩, entry⟩ (sectionNode c e body rest scope) (c.element e) v =
      rest.start scope store.world := by
  rw [stepSection, place_sectionNode hnode, hwalk]
  dsimp only
  rw [if_neg, hleave]
  · rfl
  · rw [Bool.and_eq_true, decide_eq_true_eq, not_and]
    intro hsome heq
    obtain ⟨id, hid⟩ := Option.isSome_iff_exists.1 hsome
    exact hne id hid (heq.symm.trans hid)

end Sections

/-- Whether a walk in front of a block leads behind it, as the interpreter has it. -/
def Simulates
    (t : Trigger H) (block : Block H) (scope : Scope) : Prop :=
  ∀ w : World H,
    Steps t (block.start scope w) (block.run scope w).visits
      (scope.exit (block.run scope w).outcome (block.run scope w).world)

section Sections

variable {e : Expression H} {body rest : Block H} {inLoop : Bool}

/-- A condition that is entered goes to its body if it has the single value true. -/
theorem conditional_walk_enter
    {v : Invocation H} {place : SectionPlace} {value : Option Value} {next : World H}
    (hsingle : e.single v = (value, next)) :
    (conditional (some e)).walk v place .enter =
      if value.bind Value.asBool = some true ∧ place.body.isSome = true then
        (place.body, v.storeWith next)
      else
        (place.after, v.storeWith next) := by
  have hholds : holds (some e) v = ((value.bind Value.asBool).getD false, next) := by
    simp [holds, hsingle]
  simp only [conditional, hholds]
  cases value.bind Value.asBool with
  | none =>
      simp
  | some yes =>
      cases yes <;> simp

/-- A condition whose body has come to its end is left. -/
theorem steps_of_conditional_resume
    (hnode : t.node? ⟨n⟩ = some (sectionNode .conditional e body rest scope))
    (hne : ∀ id, rest.first?.or scope.parent? = some id → body.first? ≠ some id)
    {log : List (Visit H)} {last : Walk H}
    (hrest : Steps t (rest.start scope w) log last) :
    Steps t (Scope.exit (⟨⟨n⟩, none⟩ :: scope) .ended w) log last := by
  have hexit : Scope.exit (⟨⟨n⟩, none⟩ :: scope) .ended w =
      ⟨some ⟨⟨n⟩, .resume⟩, Scope.invocation (⟨⟨n⟩, none⟩ :: scope) w⟩ :=
    arrive_cons ⟨⟨n⟩, none⟩ scope w
  rw [hexit]
  refine Steps.ofSection hnode rfl ?_
  rw [stepSection_after hnode hne rfl]
  · exact hrest
  · exact Scope.leave_invocation_cons ⟨⟨n⟩, none⟩ scope w scope.memory

/-- From the body of a condition on, the body runs and, unless it ends with a jump, what
follows the condition does. A jump drops the condition with the rest of its body. -/
theorem steps_of_conditional_body
    (hnode : t.node? ⟨n⟩ = some (sectionNode .conditional e body rest scope))
    (hne : ∀ id, rest.first?.or scope.parent? = some id → body.first? ≠ some id)
    (hbody : Simulates t body (⟨⟨n⟩, none⟩ :: scope))
    (hrest : Simulates t rest scope)
    (w : World H) {p : Pass H}
    (hp : (body.run (⟨⟨n⟩, none⟩ :: scope) w).andThen (rest.run scope) = p) :
    Steps t (body.start (⟨⟨n⟩, none⟩ :: scope) w) p.visits
      (scope.exit p.outcome p.world) := by
  have hsteps := hbody w
  cases houtcome : (body.run (⟨⟨n⟩, none⟩ :: scope) w).outcome with
  | ended =>
      rw [houtcome] at hsteps
      rw [Pass.andThen, houtcome] at hp
      subst hp
      exact hsteps.trans (steps_of_conditional_resume hnode hne (hrest _))
  | jumped =>
      rw [houtcome] at hsteps
      rw [Pass.andThen, houtcome] at hp
      subst hp
      dsimp only
      rw [houtcome]
      exact hsteps

/-- A condition runs its body once if it holds. -/
theorem simulates_conditional
    (hordered : scope.Ordered n)
    (hnode : t.node? ⟨n⟩ = some (sectionNode .conditional e body rest scope))
    (hproper : body.Proper inLoop (n + 1))
    (hne : ∀ id, rest.first?.or scope.parent? = some id → body.first? ≠ some id)
    (hbody : Simulates t body (⟨⟨n⟩, none⟩ :: scope))
    (hrest : Simulates t rest scope) :
    Simulates t (.control ⟨n⟩ .conditional e body rest) scope := by
  intro w
  rw [Block.start_eq hordered rfl]
  refine Steps.ofSection hnode rfl ?_
  obtain ⟨value, next, hsingle⟩ : ∃ value next,
    e.single (scope.invocation w) = (value, next) :=
    ⟨_, _, rfl⟩
  have hrun : (Block.control ⟨n⟩ .conditional e body rest).run scope w =
      if value.bind Value.asBool = some true then
        (body.run (⟨⟨n⟩, none⟩ :: scope) next).andThen (rest.run scope)
      else
        rest.run scope next := by
    rw [Block.run, hsingle]
  have hleave : (scope.invocation next).leave ⟨n⟩ = scope.invocation next :=
    Scope.leave_eq_self hordered
  have hskip : ¬ (value.bind Value.asBool = some true ∧ body.first?.isSome = true) →
      t.stepSection ⟨⟨n⟩, .enter⟩ (sectionNode .conditional e body rest scope)
        (Control.conditional.element e)
        (scope.invocation w) = rest.start scope next := by
    intro hno
    exact stepSection_after hnode hne
      ((conditional_walk_enter hsingle).trans (if_neg hno)) hleave
  rw [hrun]
  by_cases hholds : value.bind Value.asBool = some true
  · rw [if_pos hholds]
    rcases hproper.first?_eq with ⟨rfl, hnone⟩ | ⟨hsome, -⟩
    · rw [hskip (by simp [hnone])]
      exact hrest next
    · have henter :
          t.stepSection ⟨⟨n⟩, .enter⟩ (sectionNode .conditional e body rest scope)
            (Control.conditional.element e) (scope.invocation w) =
              body.start (⟨⟨n⟩, none⟩ :: scope) next := by
        rw [Block.start_eq (hordered.cons none) hsome]
        refine stepSection_body hnode hsome ?_
        exact (conditional_walk_enter hsingle).trans (if_pos ⟨hholds, by simp [hsome]⟩)
      rw [henter]
      exact steps_of_conditional_body hnode hne hbody hrest next rfl
  · rw [if_neg hholds, hskip fun h => hholds h.1]
    exact hrest next

/-- A loop that is entered goes to its body if it has a value. -/
theorem loop_walk_enter
    {v : Invocation H} {place : SectionPlace} {values : List Value} {next : World H}
    (hvalues : e.values v = (values, next)) :
    (loop (some e)).walk v place .enter =
      if values.isEmpty || place.body.isNone then
        (place.after, ⟨next, v.memory.erase place.id⟩)
      else
        (place.body, ⟨next, v.memory.set place.id (.loop ⟨values, 0⟩)⟩) := by
  simp only [loop, hvalues]

/-- A loop that comes to the end of its body goes
on with its next value, if there is one. -/
theorem loop_walk_again
    {v : Invocation H} {place : SectionPlace} {entry : Entry} {cursor : LoopCursor}
    (hentry : entry ≠ .enter)
    (hcursor : v.memory.cursor? place.id = some cursor) :
    (loop (some e)).walk v place entry =
      if cursor.next.isOnValue then
        (place.body, ⟨v.world, v.memory.set place.id (.loop cursor.next)⟩)
      else
        (place.after, ⟨v.world, v.memory.erase place.id⟩) := by
  cases entry with
  | enter =>
      exact absurd rfl hentry
  | resume =>
      simp only [loop, hcursor]
  | nextIteration =>
      simp only [loop, hcursor]

/-- However the body of a loop ends, control comes back to the loop. -/
theorem exit_loop
    (id : StatementId) (cursor : LoopCursor) (scope : Scope)
    (outcome : Outcome) (w : World H) :
    ∃ entry, entry ≠ .enter ∧
      Scope.exit (⟨id, some cursor⟩ :: scope) outcome w =
        ⟨some ⟨id, entry⟩, Scope.invocation (⟨id, some cursor⟩ :: scope) w⟩ := by
  cases outcome with
  | ended =>
      exact ⟨.resume, by decide, arrive_cons ⟨id, some cursor⟩ scope w⟩
  | jumped =>
      exact ⟨.nextIteration, by decide, rfl⟩

/-- A pass through the body of a loop leads to the
next pass, or behind the loop after the last value. -/
theorem steps_of_pass
    (hordered : scope.Ordered n)
    (hnode : t.node? ⟨n⟩ = some (sectionNode .loop e body rest scope))
    (hne : ∀ id, rest.first?.or scope.parent? = some id → body.first? ≠ some id)
    (hfirst : body.first? = some ⟨n + 1⟩)
    (hbody : ∀ cursor, Simulates t body (⟨⟨n⟩, some cursor⟩ :: scope))
    (cursor : LoopCursor) (w : World H) :
    Steps t (body.start (⟨⟨n⟩, some cursor⟩ :: scope) w)
      (body.run (⟨⟨n⟩, some cursor⟩ :: scope) w).visits
      (if cursor.next.isOnValue then
        body.start (⟨⟨n⟩, some cursor.next⟩ :: scope)
          (body.run (⟨⟨n⟩, some cursor⟩ :: scope) w).world
      else
        rest.start scope (body.run (⟨⟨n⟩, some cursor⟩ :: scope) w).world) := by
  have hsteps := hbody cursor w
  generalize body.run (⟨⟨n⟩, some cursor⟩ :: scope) w = p at hsteps
  obtain ⟨entry, hentry, hexit⟩ := exit_loop ⟨n⟩ cursor scope p.outcome p.world
  rw [hexit] at hsteps
  rw [← List.append_nil p.visits]
  refine hsteps.trans (Steps.ofSection hnode rfl ?_)
  have hcursor :
      (Scope.invocation (⟨⟨n⟩, some cursor⟩ :: scope) p.world).memory.cursor? ⟨n⟩ =
        some cursor :=
    Scope.cursor?_memory_cons ⟨n⟩ cursor scope
  split
  · rename_i hnext
    rw [stepSection_body hnode hfirst
      ((loop_walk_again hentry hcursor).trans (if_pos hnext)),
      if_neg hentry, Block.start_eq (hordered.cons _) hfirst]
    have hstore := Scope.withStore_set_cons hordered cursor cursor.next p.world
    rw [← hstore]
    exact .refl _
  · rename_i hlast
    rw [stepSection_after hnode hne
      ((loop_walk_again hentry hcursor).trans (if_neg hlast))]
    · exact .refl _
    · exact Scope.leave_withStore_erase_cons hordered cursor p.world

/-- From the body of a loop for one of its values on, the
body runs once for each of the values that are left. -/
theorem steps_of_passes
    (hordered : scope.Ordered n)
    (hnode : t.node? ⟨n⟩ = some (sectionNode .loop e body rest scope))
    (hne : ∀ id, rest.first?.or scope.parent? = some id → body.first? ≠ some id)
    (hfirst : body.first? = some ⟨n + 1⟩)
    (hbody : ∀ cursor, Simulates t body (⟨⟨n⟩, some cursor⟩ :: scope))
    (values : List Value) {k i : Nat}
    (hlength : i + (k + 1) = values.length)
    (w : World H) :
    Steps t (body.start (⟨⟨n⟩, some ⟨values, i⟩⟩ :: scope) w)
      (eachPass (fun cursor => body.run (⟨⟨n⟩, some cursor⟩ :: scope)) values
        (List.range' i (k + 1)) w).visits
      (rest.start scope
        (eachPass (fun cursor => body.run (⟨⟨n⟩, some cursor⟩ :: scope)) values
          (List.range' i (k + 1)) w).world) := by
  have hpass := fun i => steps_of_pass hordered hnode hne hfirst hbody ⟨values, i⟩
  induction k generalizing i w with
  | zero =>
      have hlast : (LoopCursor.next ⟨values, i⟩).isOnValue = false :=
        decide_eq_false (show ¬ i + 1 < values.length by omega)
      have hsteps := hpass i w
      rw [hlast, ← List.append_nil (body.run _ _).visits] at hsteps
      exact hsteps
  | succ k ih =>
      have hnext : (LoopCursor.next ⟨values, i⟩).isOnValue = true :=
        decide_eq_true (show i + 1 < values.length by omega)
      have hsteps := hpass i w
      rw [hnext] at hsteps
      exact hsteps.trans (ih (i := i + 1) (by omega) _)

/-- A loop runs its body once for each of its values. -/
theorem simulates_loop
    (hordered : scope.Ordered n)
    (hnode : t.node? ⟨n⟩ = some (sectionNode .loop e body rest scope))
    (hproper : body.Proper inLoop (n + 1))
    (hne : ∀ id, rest.first?.or scope.parent? = some id → body.first? ≠ some id)
    (hbody : ∀ cursor, Simulates t body (⟨⟨n⟩, some cursor⟩ :: scope))
    (hrest : Simulates t rest scope) :
    Simulates t (.control ⟨n⟩ .loop e body rest) scope := by
  intro w
  rw [Block.start_eq hordered rfl]
  refine Steps.ofSection hnode rfl ?_
  obtain ⟨values, next, hvalues⟩ : ∃ values next,
    e.values (scope.invocation w) = (values, next) :=
    ⟨_, _, rfl⟩
  have hrun : (Block.control ⟨n⟩ .loop e body rest).run scope w =
      (eachPass (fun cursor => body.run (⟨⟨n⟩, some cursor⟩ :: scope)) values
        (List.range values.length) next).andThen (rest.run scope) := by
    rw [Block.run, hvalues]
  rw [hrun, Pass.andThen, eachPass_outcome]
  have hskip : values.isEmpty || body.first?.isNone →
      t.stepSection ⟨⟨n⟩, .enter⟩ (sectionNode .loop e body rest scope)
        (Control.loop.element e) (scope.invocation w) = rest.start scope next := by
    intro hno
    refine stepSection_after hnode hne ((loop_walk_enter hvalues).trans (if_pos hno)) ?_
    change
      ((scope.invocation w).withStore ⟨next, (scope.memory).erase ⟨n⟩⟩).leave ⟨n⟩ = _
    rw [Scope.erase_memory hordered]
    exact Scope.leave_eq_self hordered
  rcases hproper.first?_eq with ⟨rfl, hnone⟩ | ⟨hsome, -⟩
  · rw [hskip (by simp [hnone]), eachPass_done fun cursor => ⟨⟨n⟩, some cursor⟩ :: scope]
    exact hrest next
  · cases values with
    | nil =>
        rw [hskip rfl]
        exact hrest next
    | cons value values =>
        have henter : t.stepSection ⟨⟨n⟩, .enter⟩ (sectionNode .loop e body rest scope)
            (Control.loop.element e) (scope.invocation w) =
              body.start (⟨⟨n⟩, some ⟨value :: values, 0⟩⟩ :: scope) next := by
          rw [Block.start_eq (hordered.cons _) hsome,
            ← Scope.push_withStore_set hordered _ w]
          refine stepSection_body hnode hsome ?_
          exact (loop_walk_enter hvalues).trans (if_neg (by simp [hsome]))
        rw [henter, List.range_eq_range']
        have hpasses := steps_of_passes hordered hnode hne hsome hbody (value :: values)
          (Nat.zero_add (values.length + 1)) next
        exact hpasses.trans (hrest _)

end Sections

/-- A walk in front of a proper block of a trigger
leads behind it, as the interpreter has it. -/
theorem simulates
    (block : Block H) {n : Nat} {scope : Scope}
    (hproper : block.Proper (scope.any Frame.isLoop) n)
    (hordered : scope.Ordered n)
    (hin : block.In t scope.parent?) :
    Simulates t block scope := by
  induction block generalizing n scope with
  | done =>
      exact fun w => .refl _
  | effect id e rest ih =>
      obtain ⟨rfl, hordinary, hrest⟩ := hproper
      intro w
      rw [Block.start_eq hordered rfl, Block.run, ← Scope.loopValue?_invocation scope w]
      refine Steps.ofEffect hin.1 rfl ?_
      rw [stepEffect_of_ordinary hin.1 hordinary]
      exact ih hrest (hordered.mono (Nat.le_succ n)) hin.2 _
  | jump id rest ih =>
      obtain ⟨rfl, hloop, hrest⟩ := hproper
      intro w
      rw [Block.start_eq hordered rfl, Block.run, ← Scope.loopValue?_invocation scope w]
      refine Steps.ofEffect hin.1 rfl ?_
      rw [stepEffect_continueEffect hordered hloop]
      exact .refl _
  | control id c e body rest ihBody ihRest =>
      obtain ⟨rfl, hbody, hrest⟩ := hproper
      obtain ⟨hnode, hinBody, hinRest⟩ := hin
      have hne := after_ne_body hordered hbody ⟨_, hrest⟩
      have hbehind := ihRest hrest (hordered.mono (by omega)) hinRest
      cases c with
      | loop =>
          exact simulates_loop hordered hnode hbody hne
            (fun cursor => ihBody hbody (hordered.cons (some cursor)) hinBody) hbehind
      | conditional =>
          exact simulates_conditional hordered hnode hbody hne
            (ihBody hbody (hordered.cons none) hinBody) hbehind

/-- The walk of a script that was put together without an error comes
to its end, whatever the script fires with. It runs the effects that
the nested script prescribes, in their order and each with its loop
value, and leaves no section active and no state behind. -/
theorem walk_eq_run
    {a : Assembly H} {source : Source H}
    (hblank : a.Blank)
    (hordinary : source.Ordinary)
    (hbuild : (source.feed a).build = .ok t) :
    ∃ block, Places a.types [] 0 source block ∧
      ∀ (context : Context H) (types : TypeSystem), ∃ n, ∀ fuel, n ≤ fuel →
        t.walk fuel (Invocation.start context types) =
            (n, ⟨none,
              { world := (block.run [] ⟨context, types⟩).world
                memory := []
                active := [] }⟩) ∧
          t.walkVisits fuel (Invocation.start context types) =
            (block.run [] ⟨context, types⟩).visits := by
  obtain ⟨block, hplaces, hnodes, hfirst⟩ := hblank.build_feed hbuild
  have hproper : block.Proper false 0 := hplaces.proper hordinary
  refine ⟨block, hplaces, fun context types => ?_⟩
  have hin : block.In t none := by
    have hall : t.nodes = [] ++ (block.nodes none ++ []) := by
      rw [hnodes, List.append_nil, List.nil_append]
    exact Block.in_of_nodes hproper hall
  have hsimulates : Simulates t block [] := simulates block hproper trivial hin
  have hsteps := hsimulates ⟨context, types⟩
  rw [hproper.outcome_run] at hsteps
  obtain ⟨n, hn⟩ := hsteps.exists_steps rfl
  have hstart : (⟨t.first.map (⟨·, .enter⟩), Invocation.start context types⟩ : Walk H) =
      block.start [] ⟨context, types⟩ := by
    rw [hfirst]
    cases hblock : block.first? with
    | none =>
        rw [Block.start, hblock]
        rfl
    | some id =>
        rw [Block.start, hblock]
        rfl
  refine ⟨n, fun fuel hfuel => ?_⟩
  obtain ⟨hwalk, hvisits⟩ := hn fuel hfuel
  constructor
  · rw [walk, hstart, hwalk, Nat.zero_add]
    rfl
  · rw [walkVisits, hstart, hvisits]

section Counting

def countingHost : Host := ⟨Nat, Unit⟩

def countUp : Effect countingHost where
  describe := fun _ => "count up"
  execute := fun v =>
    { world := { v.world with
        context := { v.world.context with payload := Nat.succ v.world.context.payload } }
      memory := v.memory }

/-- Count up for each of two values, and never get to counting up a second time. -/
def countingScript : Source countingHost :=
  .control .loop
    [literal [⟨TypeId.object, .integer 1⟩, ⟨TypeId.object, .integer 2⟩]] ⟨0, 0⟩
    (.effect ⟨countUp, fun _ _ => .ok countUp⟩ [] ⟨0, 0⟩
      (.control .conditional [literal [⟨TypeId.object, .boolean true⟩]] ⟨0, 0⟩
        (.jump [] ⟨0, 0⟩ .done)
        (.effect ⟨countUp, fun _ _ => .ok countUp⟩ [] ⟨0, 0⟩ .done)))
    .done

theorem ordinary_countingScript :
    countingScript.Ordinary := by
  have hcount : ∀ (_ : Setting) (effect : Effect countingHost),
      (.ok countUp : Except Report.Diagnostic (Effect countingHost)) = .ok effect →
        effect.Ordinary := by
    rintro _ _ ⟨⟩ v
    exact ⟨rfl, rfl⟩
  exact ⟨⟨hcount, trivial, hcount, trivial⟩, trivial⟩

/-- The script is put together without an error, and its walk comes to its end. -/
theorem walk_eq_run_countingScript :
    ∃ t, (countingScript.feed
        (Assembly.start TypeSystem.initial Report.Limits.standard)).build =
        .ok t ∧
      ∃ block, Places TypeSystem.initial [] 0 countingScript block ∧
        ∀ (context : Context countingHost) (types : TypeSystem), ∃ n, ∀ fuel, n ≤ fuel →
          t.walk fuel (Invocation.start context types) =
              (n, ⟨none,
                { world := (block.run [] ⟨context, types⟩).world
                  memory := []
                  active := [] }⟩) ∧
            t.walkVisits fuel (Invocation.start context types) =
              (block.run [] ⟨context, types⟩).visits := by
  have hbuild :
      (countingScript.feed
        (Assembly.start TypeSystem.initial Report.Limits.standard)).build =
        .ok _ := rfl
  exact ⟨_, hbuild,
    walk_eq_run (Assembly.blank_start _ _) ordinary_countingScript hbuild⟩

end Counting

end Trigger

end Script
end TriggerScript
