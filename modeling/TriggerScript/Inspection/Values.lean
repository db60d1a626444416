import TriggerScript.Inspection.Text
import TriggerScript.TypeSystem

/-!
# Inspecting values, types, converters and comparators
-/

namespace TriggerScript

open Inspection

def TypeId.inspect
    (id : TypeId) : String :=
  call "TypeId" (toString id.raw)

def Data.inspect : Data → String
  | .boolean b => call "Boolean" (bool b)
  | .integer n => call "Integer" (toString n)
  | .float x => call "Float" x.inspect
  | .text s => call "Text" (quoted s)
  | .handle h => call "Handle" (Data.handle h).display

def Value.inspect
    (v : Value) : String :=
  record "Value" [("ty", v.typeId.inspect), ("data", v.data.inspect)]

namespace Typing

def TypeDeclaration.inspect
    (d : TypeDeclaration) : String :=
  partialRecord "TypeDecl"
    [("name", quoted d.name), ("pattern", quoted d.pattern),
      ("supertype", option quoted d.supertype)]

def TypeEntry.inspect
    (t : TypeEntry) : String :=
  partialRecord "TypeDescriptor"
    [("id", t.id.inspect), ("name", quoted t.name),
      ("singular", quoted t.forms.singular), ("plural", quoted t.forms.plural),
      ("supertype", option TypeId.inspect t.supertype)]

end Typing

namespace Conversion

def Options.names
    (o : Options) : List String :=
  let all :=
    [(o.noLeftChaining, "NO_LEFT_CHAINING"), (o.noRightChaining, "NO_RIGHT_CHAINING"),
      (o.noComparison, "NO_COMPARISON"), (o.lossy, "LOSSY")]
  (all.filter Prod.fst).map Prod.snd

def Options.inspect
    (o : Options) : String :=
  call "ConverterOptions"
    (if o.names.isEmpty then "0x0" else String.intercalate " | " o.names)

def ConverterDeclaration.inspect
    (d : ConverterDeclaration) : String :=
  partialRecord "ConverterDecl"
    [("from", quoted d.source), ("to", quoted d.target), ("options", d.options.inspect)]

def Converter.inspect
    (c : Converter) : String :=
  partialRecord "ConverterEntry"
    [("from", c.source.inspect), ("to", c.target.inspect),
      ("options", c.options.inspect), ("derived", bool c.isDerived)]

end Conversion

namespace Comparison

def ComparatorDeclaration.inspect
    (d : ComparatorDeclaration) : String :=
  partialRecord "ComparatorDecl"
    [("first", quoted d.first), ("second", quoted d.second),
      ("supports_ordering", bool d.supportsOrdering)]

def ComparatorEntry.inspect
    (e : ComparatorEntry) : String :=
  partialRecord "ComparatorEntry"
    [("first", e.first.inspect), ("second", e.second.inspect),
      ("supports_ordering", bool e.supportsOrdering)]

def Comparator.inspect : Comparator → String
  | .registered e => call "Registered" e.inspect
  | .equality => "Equality"
  | .inverse base => call "Inverse" base.inspect
  | .converted first base second =>
      record "Converted"
        [("first", option Conversion.Converter.inspect first), ("base", base.inspect),
          ("second", option Conversion.Converter.inspect second)]

end Comparison

end TriggerScript
