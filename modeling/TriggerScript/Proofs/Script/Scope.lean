import Mathlib.Data.List.TakeWhile
import TriggerScript.Script.Walk

/-!
# Scopes

Inside of nested sections a run is determined by the sections around: those are the
active ones, and the states are those of the loops among them. Whatever is entered,
resumed or left changes the innermost frame only.
-/

namespace TriggerScript
namespace Script

variable {H : Host}

/-- A section around a statement, and the place in its values if it is a loop. -/
structure Frame where
  id : StatementId
  cursor : Option LoopCursor

def Frame.isLoop
    (f : Frame) : Bool :=
  f.cursor.isSome

/-- The sections around a statement, the innermost first. -/
abbrev Scope := List Frame

namespace Scope

def parent?
    (scope : Scope) : Option StatementId :=
  scope.head?.map Frame.id

/-- The innermost loop with what is around it. -/
def fromLoop
    (scope : Scope) : Scope :=
  scope.dropWhile fun f => !f.isLoop

/-- The value that the innermost loop is on. -/
def loopValue?
    (scope : Scope) : Option Value :=
  (scope.find? Frame.isLoop).bind fun f => f.cursor.bind LoopCursor.current?

def active
    (scope : Scope) : List ActiveSection :=
  scope.map fun f => ⟨f.id, f.isLoop⟩

def memory
    (scope : Scope) : SectionMemory H :=
  scope.filterMap fun f => f.cursor.map fun cursor => (f.id, .loop cursor)

/-- The run inside of a scope. -/
def invocation
    (scope : Scope) (world : World H) : Invocation H :=
  { world := world, memory := scope.memory, active := scope.active }

/-- Whether the sections of a scope are numbered below
a given number, the outer ones below the inner ones. -/
def Ordered : Scope → Nat → Prop
  | [], _ => True
  | f :: scope, n => f.id.raw < n ∧ Ordered scope f.id.raw

theorem Ordered.mono
    {scope : Scope} {n m : Nat}
    (h : scope.Ordered n)
    (hle : n ≤ m) :
    scope.Ordered m := by
  cases scope with
  | nil =>
      trivial
  | cons f scope =>
      exact ⟨Nat.lt_of_lt_of_le h.1 hle, h.2⟩

theorem Ordered.cons
    {scope : Scope} {n : Nat}
    (h : scope.Ordered n)
    (cursor : Option LoopCursor) :
    Ordered (⟨⟨n⟩, cursor⟩ :: scope) (n + 1) :=
  ⟨Nat.lt_succ_self n, h⟩

/-- A section that is numbered behind a scope is none of its sections. -/
theorem Ordered.ne
    {scope : Scope} {n : Nat}
    (h : scope.Ordered n) :
    ∀ f ∈ scope, f.id ≠ ⟨n⟩ := by
  have hlt : ∀ f ∈ scope, f.id.raw < n := by
    induction scope generalizing n with
    | nil =>
        simp
    | cons g scope ih =>
        rw [List.forall_mem_cons]
        exact ⟨h.1, fun f hf => Nat.lt_trans (ih h.2 f hf) h.1⟩
  intro f hf heq
  have := hlt f hf
  rw [heq] at this
  exact Nat.lt_irrefl n this

section Fresh

variable {scope : Scope} {n : Nat} {w : World H}

theorem isActive_eq_false
    (h : scope.Ordered n) :
    (scope.invocation w).isActive ⟨n⟩ = false := by
  simpa [Invocation.isActive, invocation, active] using h.ne

theorem erase_memory
    (h : scope.Ordered n) :
    (scope.memory : SectionMemory H).erase ⟨n⟩ = scope.memory := by
  rw [SectionMemory.erase, List.filter_eq_self]
  intro entry hentry
  obtain ⟨f, hf, hcursor⟩ := List.mem_filterMap.1 hentry
  obtain ⟨cursor, -, rfl⟩ := Option.map_eq_some_iff.1 hcursor
  simpa using h.ne f hf

theorem leave_eq_self
    (h : scope.Ordered n) :
    (scope.invocation w).leave ⟨n⟩ = scope.invocation w := by
  cases scope with
  | nil =>
      rfl
  | cons f scope =>
      exact if_neg (h.ne f List.mem_cons_self)

/-- A loop that is entered gets a frame. -/
theorem set_memory
    (h : scope.Ordered n)
    (cursor : LoopCursor) :
    (scope.memory : SectionMemory H).set ⟨n⟩ (.loop cursor) =
      memory (⟨⟨n⟩, some cursor⟩ :: scope) := by
  rw [SectionMemory.set, erase_memory h]
  rfl

theorem erase_memory_cons
    (h : scope.Ordered n)
    (cursor : LoopCursor) :
    (memory (⟨⟨n⟩, some cursor⟩ :: scope) : SectionMemory H).erase ⟨n⟩ =
      scope.memory := by
  have hcons : (memory (⟨⟨n⟩, some cursor⟩ :: scope) : SectionMemory H) =
      (⟨n⟩, .loop cursor) :: scope.memory := rfl
  rw [hcons, SectionMemory.erase, List.filter_cons_of_neg (by simp)]
  exact erase_memory h

theorem set_memory_cons
    (h : scope.Ordered n)
    (cursor next : LoopCursor) :
    (memory (⟨⟨n⟩, some cursor⟩ :: scope) : SectionMemory H).set ⟨n⟩ (.loop next) =
      memory (⟨⟨n⟩, some next⟩ :: scope) := by
  rw [SectionMemory.set, erase_memory_cons h]
  rfl

end Fresh

theorem cursor?_memory_cons
    (id : StatementId) (cursor : LoopCursor) (scope : Scope) :
    (memory (⟨id, some cursor⟩ :: scope) : SectionMemory H).cursor? id =
      some cursor := by
  simp [memory, SectionMemory.cursor?, SectionMemory.get?]

theorem leave_invocation_cons
    (f : Frame) (scope : Scope) (w : World H) (memory : SectionMemory H) :
    ({ world := w, memory := memory, active := active (f :: scope) } :
        Invocation H).leave f.id =
      { world := w, memory := memory, active := scope.active } :=
  if_pos rfl

/-- A loop that is entered with its state has a frame. -/
theorem push_withStore_set
    {scope : Scope} {n : Nat}
    (h : scope.Ordered n)
    (cursor : LoopCursor) (w next : World H) :
    ((scope.invocation w).withStore ⟨next, (scope.memory).set ⟨n⟩ (.loop cursor)⟩).push
        ⟨⟨n⟩, true⟩ =
      invocation (⟨⟨n⟩, some cursor⟩ :: scope) next := by
  rw [set_memory h]
  rfl

/-- A loop that goes on with the state for its next value has its frame replaced. -/
theorem withStore_set_cons
    {scope : Scope} {n : Nat}
    (h : scope.Ordered n)
    (cursor next : LoopCursor) (w : World H) :
    (invocation (⟨⟨n⟩, some cursor⟩ :: scope) w).withStore
        ⟨w, (memory (⟨⟨n⟩, some cursor⟩ :: scope)).set ⟨n⟩ (.loop next)⟩ =
      invocation (⟨⟨n⟩, some next⟩ :: scope) w := by
  rw [set_memory_cons h]
  rfl

theorem leave_withStore_erase_cons
    {scope : Scope} {n : Nat}
    (h : scope.Ordered n)
    (cursor : LoopCursor) (w : World H) :
    ((invocation (⟨⟨n⟩, some cursor⟩ :: scope) w).withStore
        ⟨w, (memory (⟨⟨n⟩, some cursor⟩ :: scope)).erase ⟨n⟩⟩).leave ⟨n⟩ =
      scope.invocation w := by
  rw [erase_memory_cons h]
  exact leave_invocation_cons ⟨⟨n⟩, some cursor⟩ scope w scope.memory

theorem fromLoop_ne_nil
    {scope : Scope}
    (h : scope.any Frame.isLoop = true) :
    scope.fromLoop ≠ [] := by
  obtain ⟨f, hf, hloop⟩ := List.any_eq_true.1 h
  intro hnil
  have hnone := List.dropWhile_eq_nil_iff.1 hnil f hf
  rw [hloop] at hnone
  cases hnone

theorem innermostLoop?_invocation
    (scope : Scope) (w : World H) :
    (scope.invocation w).innermostLoop? = scope.fromLoop.parent? := by
  induction scope with
  | nil =>
      rfl
  | cons f scope ih =>
      obtain ⟨id, cursor⟩ := f
      cases cursor with
      | none =>
          exact ih
      | some cursor =>
          rfl

/-- The value of the innermost loop of a run is that of its scope. -/
theorem loopValue?_invocation
    (scope : Scope) (w : World H) :
    (scope.invocation w).loopValue? = scope.loopValue? := by
  induction scope with
  | nil =>
      rfl
  | cons f scope ih =>
      obtain ⟨id, cursor⟩ := f
      cases cursor with
      | none =>
          exact ih
      | some cursor =>
          have hcursor :
              (memory (⟨id, some cursor⟩ :: scope) : SectionMemory H).cursor? id =
                some cursor :=
            cursor?_memory_cons id cursor scope
          have hinnermost :
              (invocation (⟨id, some cursor⟩ :: scope) w).innermostLoop? = some id :=
            rfl
          rw [Invocation.loopValue?, hinnermost]
          simp only [invocation, hcursor]
          rfl

/-- Frames inside of the innermost loop are dropped by going back to the loop. -/
theorem unwound_fromLoop
    {scope outer : Scope} {n : Nat} {f : Frame}
    (h : scope.Ordered n)
    (hloop : scope.fromLoop = f :: outer) :
    Invocation.unwound f.id scope.active (scope.memory : SectionMemory H) =
      (active (f :: outer), memory (f :: outer)) := by
  induction scope generalizing n with
  | nil =>
      cases hloop
  | cons g scope ih =>
      obtain ⟨id, cursor⟩ := g
      cases cursor with
      | some cursor =>
          cases hloop
          exact if_pos rfl
      | none =>
          have hmem : f ∈ scope := by
            have hsuffix : fromLoop scope <:+ scope := List.dropWhile_suffix _
            exact hsuffix.subset (hloop ▸ List.mem_cons_self)
          have hne : id ≠ f.id := fun heq => h.2.ne f hmem heq.symm
          have hcons : Invocation.unwound f.id (active (⟨id, none⟩ :: scope))
              (memory (⟨id, none⟩ :: scope) : SectionMemory H) =
                Invocation.unwound f.id (active scope)
                  ((memory scope : SectionMemory H).erase id) :=
            if_neg hne
          rw [hcons, erase_memory h.2]
          exact ih h.2 hloop

theorem unwindTo_fromLoop
    {scope outer : Scope} {n : Nat} {f : Frame}
    (h : scope.Ordered n)
    (hloop : scope.fromLoop = f :: outer)
    (w : World H) :
    (scope.invocation w).unwindTo f.id = invocation (f :: outer) w := by
  have hunwound := unwound_fromLoop (H := H) h hloop
  unfold Invocation.unwindTo
  change (let r := Invocation.unwound f.id scope.active scope.memory
    ({ world := w, memory := r.2, active := r.1 } : Invocation H)) = _
  rw [hunwound]
  rfl

/-- Going back to the innermost section drops nothing. -/
theorem unwindTo_cons
    (f : Frame) (scope : Scope) (w : World H) :
    (invocation (f :: scope) w).unwindTo f.id = invocation (f :: scope) w := by
  have hunwound : Invocation.unwound f.id (active (f :: scope))
      (memory (f :: scope) : SectionMemory H) =
        (active (f :: scope), memory (f :: scope)) :=
    if_pos rfl
  unfold Invocation.unwindTo
  change (let r := Invocation.unwound f.id (active (f :: scope)) (memory (f :: scope))
    ({ world := w, memory := r.2, active := r.1 } : Invocation H)) = _
  rw [hunwound]
  rfl

end Scope

namespace Trigger

open Scope

variable {scope : Scope} {n : Nat} {w : World H}

theorem arrive_of_ordered
    (h : scope.Ordered n) :
    arrive ⟨n⟩ (scope.invocation w) = ⟨some ⟨⟨n⟩, .enter⟩, scope.invocation w⟩ := by
  rw [arrive, isActive_eq_false h]
  rfl

theorem arrive_cons
    (f : Frame) (scope : Scope) (w : World H) :
    arrive f.id (invocation (f :: scope) w) =
      ⟨some ⟨f.id, .resume⟩, invocation (f :: scope) w⟩ := by
  have hactive : (invocation (f :: scope) w).isActive f.id = true := by
    simp [Invocation.isActive, invocation, active]
  rw [arrive, hactive, unwindTo_cons]
  rfl

end Trigger

end Script
end TriggerScript
