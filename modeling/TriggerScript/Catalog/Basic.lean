import TriggerScript.Catalog.Staging

/-!
# The catalog

The catalog holds the vocabulary of all addons. A registration is compiled first and then
published as a whole; declarations that name unknown types, or repeat what is there, are
left out with a diagnostic. Nothing that was published is ever taken back.
-/

namespace TriggerScript
namespace Catalog

open Script Report

/-- The settings of a catalog. -/
structure Config where
  /-- Whether missing chains of converters are added after each registration. -/
  deriveChains : Bool
  /-- What is left out of the diagnostics of one registration. -/
  limits : Limits
deriving DecidableEq

def Config.standard : Config := ⟨true, Limits.standard⟩

/-- An addon with the names of the events that it published. -/
structure Addon where
  name : String
  events : List String
deriving DecidableEq

/-- Whether an addon published an event of that name. -/
def Addon.handlesEvent
    (a : Addon) (element : String) : Bool :=
  a.events.contains element

end Catalog

open Catalog Script Report

/-- The vocabulary of all addons. -/
structure Catalog (H : Host) where
  config : Catalog.Config
  types : TypeSystem
  expressions : List (ExpressionEntry H)
  effects : List (Phrase H (Effect H))
  sections : List (Phrase H (Section H))
  events : List (EventEntry H)
  contextValues : ContextValues H
  tags : List TagEntry
  addons : List Addon

namespace Catalog

variable {H : Host}

/-- A catalog with nothing but the universal type. -/
def empty
    (config : Config) : Catalog H :=
  ⟨config, TypeSystem.initial, [], [], [], [], ContextValues.empty, [], []⟩

/-- The expressions whose values can be used as a
type, in the order in which they are tried. -/
def expressionsReturning
    (c : Catalog H) (type : TypeId) : List (ExpressionEntry H) :=
  c.expressions.filter fun e => c.types.types.isAssignable type e.returnType

/-- The tag of a name in any case. -/
def tag?
    (c : Catalog H) (name : String) : Option TagEntry :=
  c.tags.find? fun t => Text.lower t.name == Text.lower name

def addon?
    (c : Catalog H) (name : String) : Option Addon :=
  c.addons.find? fun a => a.name == name

def publishTypes
    (s : TypeSystem) (queue : Queue) : List Typing.TypeDeclaration → TypeSystem × Queue
  | [] => (s, queue)
  | d :: rest =>
      match s.registerType d with
      | .ok (_, s) => publishTypes s queue rest
      | .error refusal => publishTypes s (queue.push refusal.diagnostic) rest

def publishConverters
    (s : TypeSystem) (queue : Queue) :
    List Conversion.ConverterDeclaration → TypeSystem × Queue
  | [] => (s, queue)
  | d :: rest =>
      match s.registerConverter d with
      | .ok s => publishConverters s queue rest
      | .error refusal => publishConverters s (queue.push refusal.diagnostic) rest

def publishComparators
    (s : TypeSystem) (queue : Queue) :
    List Comparison.ComparatorDeclaration → TypeSystem × Queue
  | [] => (s, queue)
  | d :: rest =>
      match s.registerComparator d with
      | .ok s => publishComparators s queue rest
      | .error refusal => publishComparators s (queue.push refusal.diagnostic) rest

/-- The first name in the slots of a pattern that no type has. -/
def unknownSlotType?
    (types : Typing.Registry) (t : Pattern.Tree) : Option String :=
  (t.slots.flatMap Pattern.Slot.types).find? fun name => (types.sense? name).isNone

/-- The diagnostic of a pattern with an unknown type. -/
def unknownSlotType
    (element name source : String) : Diagnostic :=
  ((Diagnostic.error .unknownSlotType).withMessage
      ("unknown type `" ++ name ++ "` in an expression slot of `" ++
        element ++ "`")).withSource
    source

/-- The patterns whose slots name known types only. -/
def checkPatterns
    (types : Typing.Registry) (element : String) :
    List CompiledPattern → Queue → List CompiledPattern × Queue
  | [], queue => ([], queue)
  | p :: rest, queue =>
      match unknownSlotType? types p.tree with
      | some name =>
          checkPatterns types element rest
            (queue.push (unknownSlotType element name p.source))
      | none =>
          let (others, queue) := checkPatterns types element rest queue
          (p :: others, queue)

/-- An element with such of its patterns whose slots
name known types; it is none if no pattern is left. -/
def checkPhrase {α : Type}
    (types : Typing.Registry) (p : Phrase H α) (queue : Queue) :
    Option (Phrase H α) × Queue :=
  match checkPatterns types p.element.name p.patterns queue with
  | ([], queue) => (none, queue.push (noPatternLeft p.element.name))
  | (patterns, queue) => (some { p with patterns := patterns }, queue)

def checkPhrases {α : Type}
    (types : Typing.Registry) : List (Phrase H α) → Queue → List (Phrase H α) × Queue
  | [], queue => ([], queue)
  | p :: rest, queue =>
      let (checked, queue) := checkPhrase types p queue
      let (others, queue) := checkPhrases types rest queue
      (checked.toList ++ others, queue)

/-- The diagnostic of an expression with values of an unknown type. -/
def unknownReturnType
    (element type : String) : Diagnostic :=
  (Diagnostic.error .unknownType).withMessage
    ("`" ++ element ++ "` returns unknown type `" ++ type ++ "`")

def checkExpressions
    (types : Typing.Registry) :
    List (Phrase H (Expression H) × String × Bool) → Queue →
      List (ExpressionEntry H) × Queue
  | [], queue => ([], queue)
  | (p, returnType, isSingle) :: rest, queue =>
      match types.idOf? returnType with
      | none =>
          checkExpressions types rest
            (queue.push (unknownReturnType p.element.name returnType))
      | some id =>
          let (checked, queue) := checkPhrase types p queue
          let (others, queue) := checkExpressions types rest queue
          ((checked.map fun p => ExpressionEntry.mk p id isSingle).toList ++ others,
            queue)

def checkEvents
    (types : Typing.Registry) : List (EventEntry H) → Queue → List (EventEntry H) × Queue
  | [], queue => ([], queue)
  | e :: rest, queue =>
      let (checked, queue) := checkPhrase types e.phrase queue
      let (others, queue) := checkEvents types rest queue
      ((checked.map fun p => { e with phrase := p }).toList ++ others, queue)

def resolveContextValue
    (types : Typing.Registry) (v : PendingContextValue H) :
    Except Diagnostic (ContextValue H) :=
  match types.idOf? v.returnType with
  | none =>
      .error ((Diagnostic.error .unknownType).withMessage
        ("context value `" ++ v.name ++ "` returns unknown type `" ++
          v.returnType ++ "`"))
  | some id =>
      .ok
        { context := v.context
          name := v.name
          returnType := id
          isSingle := v.isSingle
          timeline := v.timeline
          usage := v.usage
          excluded := v.excluded
          extract := v.extract }

def publishContextValues
    (types : Typing.Registry) (values : ContextValues H) (queue : Queue) :
    List (PendingContextValue H) → ContextValues H × Queue
  | [] => (values, queue)
  | v :: rest =>
      match (resolveContextValue types v).bind values.add with
      | .ok values => publishContextValues types values queue rest
      | .error d => publishContextValues types values (queue.push d) rest

/-- The addons after one of them published more events. -/
def recordAddon
    (name : String) (events : List String) : List Addon → List Addon
  | [] => [⟨name, events⟩]
  | a :: rest =>
      if a.name = name then
        { a with events := a.events ++ events } :: rest
      else
        a :: recordAddon name events rest

/-- Publish a compiled registration: types, converters and comparators first, so that the
patterns and values of the same registration can name them. -/
def publish
    (c : Catalog H) (b : Batch H) (queue : Queue) : Catalog H × Queue :=
  let (types, queue) := publishTypes c.types queue b.types
  let (types, queue) := publishConverters types queue b.converters
  let (types, queue) := publishComparators types queue b.comparators
  let registry := types.types
  let (expressions, queue) := checkExpressions registry b.expressions queue
  let (effects, queue) := checkPhrases registry b.effects queue
  let (sections, queue) := checkPhrases registry b.sections queue
  let (events, queue) := checkEvents registry b.events queue
  let (contextValues, queue) :=
    publishContextValues registry c.contextValues queue b.contextValues
  ({ config := c.config
     types := if c.config.deriveChains then types.deriveChains.2 else types
     expressions := sortByRank (c.expressions ++ expressions)
     effects := sortByRank (c.effects ++ effects)
     sections := sortByRank (c.sections ++ sections)
     events := sortByRank (c.events ++ events)
     contextValues := contextValues
     tags := sortByRank (c.tags ++ b.tags)
     addons := recordAddon b.addon
       (events.map fun e => e.phrase.element.name) c.addons },
    queue)

/-- Publish a registration; the diagnostics tell what was
left out of it. If it is refused, nothing is published. -/
def register
    [Regex.Dialect]
    (c : Catalog H) (r : Registration H) :
    Except RegistrationError (List Diagnostic × Catalog H) :=
  match r.stage (Queue.empty c.config.limits) with
  | .error e => .error e
  | .ok (batch, queue) =>
      let (c, queue) := c.publish batch queue
      .ok (queue.flush.1, c)

end Catalog

end TriggerScript
