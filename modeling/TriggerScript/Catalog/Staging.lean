import TriggerScript.Catalog.Registration
import TriggerScript.Report.Queue

/-!
# Staging

Before anything is published all patterns of a registration are compiled and ranked. A
pattern that cannot be compiled is left out with a diagnostic, and so is an element
without any pattern left. A pattern that can be compiled but not ranked makes the whole
registration fail, unless its declaration has a priority of its own.
-/

namespace TriggerScript
namespace Catalog

open Script Report

variable [Regex.Dialect]

/-- A registration with its patterns compiled. -/
structure Batch (H : Host) where
  addon : String
  types : List Typing.TypeDeclaration
  converters : List Conversion.ConverterDeclaration
  comparators : List Comparison.ComparatorDeclaration
  /-- The expressions, with the names of their types. -/
  expressions : List (Phrase H (Expression H) × String × Bool)
  effects : List (Phrase H (Effect H))
  sections : List (Phrase H (Section H))
  events : List (EventEntry H)
  contextValues : List (PendingContextValue H)
  tags : List TagEntry

/-- The diagnostic of an element without patterns. -/
def noPatternLeft
    (element : String) : Diagnostic :=
  (Diagnostic.error .noPattern).withMessage
    ("`" ++ element ++ "` has no valid pattern left")

/-- Compile patterns of an element, and rank them if need be. -/
def compilePatterns
    (element : String) (needsRank : Bool) :
    List String → Queue → Except RegistrationError (List (CompiledPattern × Nat) × Queue)
  | [], queue => .ok ([], queue)
  | source :: rest, queue =>
      match Pattern.compile source with
      | .error d =>
          compilePatterns element needsRank rest
            (queue.push (d.withNote ("in a pattern of `" ++ element ++ "`")))
      | .ok tree =>
          match if needsRank then tree.rank? else some Pattern.textRank with
          | none => .error (.unrankablePattern element source)
          | some rank =>
              match compilePatterns element needsRank rest queue with
              | .error e => .error e
              | .ok (others, queue) => .ok ((⟨source, tree⟩, rank) :: others, queue)

/-- Compile a declared element; it is none if no pattern is left. -/
def stagePhrase {H : Host} {α : Type}
    (addon : String) (p : PendingPhrase H α) (queue : Queue) :
    Except RegistrationError (Option (Phrase H α) × Queue) :=
  match compilePatterns p.element.name p.priority.isNone p.patterns queue with
  | .error e => .error e
  | .ok ([], queue) => .ok (none, queue.push (noPatternLeft p.element.name))
  | .ok (compiled, queue) =>
      let inferred := (compiled.map Prod.snd).foldl min Pattern.textRank
      .ok
        (some
          { element := p.element
            patterns := compiled.map Prod.fst
            priority := p.priority.getD inferred
            addon := addon },
          queue)

/-- Compile several declared elements, each with
something else that is kept beside it. -/
def stageAll {H : Host} {α β γ : Type}
    (addon : String) (phrase : β → PendingPhrase H α) (finish : β → Phrase H α → γ) :
    List β → Queue → Except RegistrationError (List γ × Queue)
  | [], queue => .ok ([], queue)
  | b :: rest, queue =>
      match stagePhrase addon (phrase b) queue with
      | .error e => .error e
      | .ok (staged, queue) =>
          match stageAll addon phrase finish rest queue with
          | .error e => .error e
          | .ok (others, queue) => .ok ((staged.map (finish b)).toList ++ others, queue)

def Registration.stage {H : Host}
    (r : Registration H) (queue : Queue) :
    Except RegistrationError (Batch H × Queue) := do
  let (expressions, queue) ←
    stageAll r.addon PendingExpression.phrase (fun e p => (p, e.returnType, e.isSingle))
      r.expressions queue
  let (effects, queue) ← stageAll r.addon id (fun _ p => p) r.effects queue
  let (sections, queue) ← stageAll r.addon id (fun _ p => p) r.sections queue
  let (events, queue) ←
    stageAll r.addon PendingEvent.phrase
      (fun e p => EventEntry.mk p e.contexts) r.events queue
  .ok
    ({ addon := r.addon
       types := r.types
       converters := r.converters
       comparators := r.comparators
       expressions := expressions
       effects := effects
       sections := sections
       events := events
       contextValues := r.contextValues
       tags := r.tags.map fun t => ⟨t.name, t.blueprint, t.priority, r.addon⟩ },
      queue)

end Catalog
end TriggerScript
