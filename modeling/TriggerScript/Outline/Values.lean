import TriggerScript.Decimal.Hexadecimal
import TriggerScript.Inspection.Values
import TriggerScript.Outline.Basic

/-!
# Outlines of values, types, converters and comparators
-/

namespace TriggerScript

open Outline

instance : Outlined TypeId :=
  ⟨fun id => outline id.raw⟩

/-- Data is outlined as a record with one field, which names its shape. -/
instance : Outlined Data :=
  ⟨fun
    | .boolean b => .record [field "b" b]
    | .integer n => .record [field "i" (toString n)]
    | .float x => .record [field "f" x.hexadecimal]
    | .text s => .record [field "t" s]
    | .handle h => .record [field "h" h.name]⟩

instance : Outlined Value :=
  ⟨fun v => outline (v.typeId, v.data)⟩

/-- What a value can be seen as, and whether it is the same as another one. -/
def Value.views
    (v : Value) (other : Option Value) : Outline :=
  .record
    [field "bool" v.asBool, field "int" (v.asInteger.map fun n => toString n),
      field "float" (v.asFloat.map Data.float), field "text" v.asText,
      field "handle" (v.asHandle.map Handle.name), field "data" v.data.display,
      field "into_data" v.data, field "same" (other.map v.same)]

namespace Typing

instance : Outlined Changer :=
  ⟨fun c => outline ((ChangeMode.all.filter c.accepts).map ChangeMode.name)⟩

instance : Outlined Arithmetic :=
  ⟨fun a => outline a.relativeType⟩

instance : Outlined TypeEntry :=
  ⟨fun t =>
    .record
      [field "id" t.id, field "name" t.name, field "singular" t.forms.singular,
        field "plural" t.forms.plural, field "super" t.supertype,
        field "parser" t.hasParser, field "changer" t.abilities.changer,
        field "arithmetic" t.abilities.arithmetic, field "none" (t.display none)]⟩

instance : Outlined Sense :=
  ⟨fun s => outline [outline s.typeId, outline s.isSingular]⟩

end Typing

instance : Outlined Conversion.Converter :=
  ⟨fun c =>
    .record
      [field "from" c.source, field "to" c.target, field "options" c.options.bits,
        field "derived" c.isDerived]⟩

namespace Comparison

instance : Outlined Relation :=
  ⟨fun r => outline r.name⟩

instance : Outlined Ordering :=
  ⟨fun o => outline (Relation.ofOrdering o)⟩

/-- The outline of a relation with what can be asked of it. -/
def Relation.outlined
    (r : Relation) : Outline :=
  .record
    [field "display" r.text, field "inverse" r.inverse,
      field "satisfies" (Relation.all.filter r.satisfies), field "is_equal" r.isEqual,
      field "ordering" r.toOrdering]

namespace Comparator

/-- The outline of a comparator, given that of what it is built from. -/
def outlineAs
    (c : Comparator) (shape : Outline) : Outline :=
  .record
    [field "shape" shape, field "ordering" c.supportsOrdering,
      field "conversions" c.conversionCount, field "derived" c.isDerived]

/-- The outline of a comparator with what it is built from. -/
def outlined : Comparator → Outline
  | .registered e =>
      outlineAs (.registered e) (.record [field "registered" (e.first, e.second)])
  | .equality => outlineAs .equality (.text "equality")
  | .inverse base => outlineAs (.inverse base) (.record [field "inverse" base.outlined])
  | .converted first base second =>
      outlineAs (.converted first base second)
        (.record [field "converted" [outline first, base.outlined, outline second]])

instance : Outlined Comparator :=
  ⟨outlined⟩

end Comparator

end Comparison

namespace TypeSystem

def lookup
    (s : TypeSystem) (word : String) : Outline :=
  .record
    [field "type" (s.types.byName? word), field "slot" (s.types.sense? word),
      field "id" (s.typeId? word)]

/-- The sizes of the parts of a type system. -/
def counts
    (s : TypeSystem) : Outline :=
  .record
    [field "types" s.types.size, field "no_types" s.types.entries.isEmpty,
      field "converters" s.converters.length, field "no_converters" s.converters.isEmpty,
      field "comparators" s.comparators.length,
      field "no_comparators" s.comparators.isEmpty, field "cached" s.memo.length]

/-- The parts of a type system as they are inspected. -/
def inspections
    (s : TypeSystem) : Outline :=
  .record
    [field "types" (s.types.entries.map Typing.TypeEntry.inspect),
      field "converters" (s.converters.map Conversion.Converter.inspect)]

end TypeSystem

end TriggerScript
