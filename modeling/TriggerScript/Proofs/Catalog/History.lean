import TriggerScript.Proofs.Catalog.Acceptance
import TriggerScript.Proofs.Catalog.Calls
import TriggerScript.Proofs.Catalog.MatchOrder

/-!
# Histories of catalogs

A catalog is reached by a history: the list of everything that was done with it, the
newest first. Each registration is sorted into what is there already. What is published
at any time is nevertheless the stable sort of everything that was accepted so far, so
entries stay, and in the order in which they are.
-/

namespace TriggerScript
namespace Catalog

open Script Report

variable [Regex.Dialect] {H : Host}

/-- Something that is done with a catalog. -/
inductive Step
    (H : Host) where
  /-- An addon registers what its calls declare. -/
  | register (addon : String) (calls : List (Call H))
  /-- The comparator for two types is asked for. -/
  | ask (a b : TypeId)

/-- The catalog after a step; a refused registration changes nothing. -/
def perform
    (c : Catalog H) : Step H → Catalog H
  | .register addon calls =>
      match c.register (Registration.filled addon calls) with
      | .ok r => r.2
      | .error _ => c
  | .ask a b => { c with types := c.types.remembering a b }

/-- What a step publishes, in the order of declaration. -/
def Step.accepted
    (c : Catalog H) : Step H → (k : Category) → List (k.Entry H)
  | .register addon calls, k =>
      match c.register (Registration.filled addon calls) with
      | .ok r => (Registration.filled addon calls).accepted r.2.types.types k
      | .error _ => []
  | .ask _ _, _ => []

/-- Everything that was done with a catalog, the newest first. -/
abbrev History
    (H : Host) := List (Step H)

/-- The catalog that a history leads to. -/
def after
    (config : Config) : History H → Catalog H
  | [] => empty config
  | step :: earlier => (after config earlier).perform step

/-- Everything that was published in a history, in the order of publication. -/
def accepted
    (config : Config) : History H → (k : Category) → List (k.Entry H)
  | [], _ => []
  | step :: earlier, k =>
      accepted config earlier k ++ step.accepted (after config earlier) k

/-- What a step does to a catalog. -/
inductive Change
    (c : Catalog H) : Step H → Catalog H → Prop
  /-- A registration is published. -/
  | published
      {addon : String} {calls : List (Call H)} {c' : Catalog H}
      (publishes : Publishes c (Registration.filled addon calls) c')
      (accepted : ∀ k, (Step.register addon calls).accepted c k =
        (Registration.filled addon calls).accepted c'.types.types k) :
      Change c (.register addon calls) c'
  /-- Nothing changes but what is remembered of types. -/
  | kept
      {step : Step H} {c' : Catalog H}
      (ops : List TypeSystem.Operation)
      (same : c' = { c with types := c.types.performAll ops })
      (accepted : ∀ k, step.accepted c k = []) :
      Change c step c'

theorem change_perform
    (c : Catalog H) (step : Step H) :
    Change c step (c.perform step) := by
  cases step with
  | register addon calls =>
      cases h : c.register (Registration.filled addon calls) with
      | ok r =>
          obtain ⟨ds, c'⟩ := r
          have hperform : c.perform (.register addon calls) = c' := by
            rw [perform, h]
          rw [hperform]
          refine .published (publishes_of_register h) ?_
          intro k
          rw [Step.accepted, h]
      | error e =>
          have hperform : c.perform (.register addon calls) = c := by
            rw [perform, h]
          rw [hperform]
          refine .kept [] rfl ?_
          intro k
          rw [Step.accepted, h]
  | ask a b =>
      exact .kept [.comparator a b] rfl fun _ => rfl

/-- What holds of an empty catalog, and after each step, holds after every history. -/
theorem after_induction
    {config : Config} {P : History H → Catalog H → Prop}
    (hempty : P [] (empty config))
    (hstep : ∀ step earlier c',
      Change (after config earlier) step c' → P earlier (after config earlier) →
        P (step :: earlier) c')
    (h : History H) :
    P h (after config h) := by
  induction h with
  | nil =>
      exact hempty
  | cons step earlier ih =>
      exact hstep step earlier _ (change_perform _ step) ih

/-- What is published is what was accepted so far, sorted. -/
theorem published_after
    (config : Config) (h : History H) (k : Category) :
    (after config h).published k = sortByRank (accepted config h k) := by
  refine after_induction
    (P := fun h c => c.published k = sortByRank (accepted config h k)) ?_ ?_ h
  · have hempty : (empty (H := H) config).published k = [] := by
      cases k <;> rfl
    rw [hempty, accepted, sortByRank, List.mergeSort_nil]
  · intro step earlier c' hchange ih
    rw [accepted]
    cases hchange with
    | published publishes haccepted =>
        rw [publishes.published k, haccepted k, ih, sortByRank_sortByRank_append]
    | kept ops same haccepted =>
        rw [same, haccepted k, List.append_nil, ← ih]
        cases k <;> rfl

/-- What was accepted before comes first. -/
theorem accepted_prefix
    (config : Config) (later h : History H) (k : Category) :
    accepted config h k <+: accepted config (later ++ h) k := by
  induction later with
  | nil =>
      exact List.prefix_rfl
  | cons step later ih =>
      exact ih.trans (List.prefix_append _ _)

/-- The entries of each kind are the stable sort, by descending priority, of all that was
accepted so far in the order of publication; and whatever happens later, entries that are
published stay, in the order in which they are. -/
theorem inMatchOrder_published
    (config : Config) (h : History H) (k : Category) :
    InMatchOrder (accepted config h k) ((after config h).published k) ∧
      ∀ later : History H,
        ((after config h).published k).Sublist
          ((after config (later ++ h)).published k) := by
  constructor
  · rw [published_after]
    exact inMatchOrder_sortByRank _
  · intro later
    obtain ⟨more, hmore⟩ := accepted_prefix config later h k
    rw [published_after, published_after, ← hmore]
    exact sortByRank_sublist _ _

end Catalog
end TriggerScript
