import TriggerScript.Unicode.Binary

/-!
# Writing records for inspection

Records are shown with the names of their fields, lists between brackets, and texts
between quotes. Characters that could not be seen in a text are shown by their number.
-/

namespace TriggerScript
namespace Inspection

open Unicode

/-- The categories of characters that cannot be
seen, and of code points without a character. -/
def invisible : CodePointSet :=
  Category.codePoints ["cc", "cf", "cn", "co", "zl", "zp", "zs"]

/-- Whether a character is shown as it is, and not by its number: it can be seen and does
not join the character before it. -/
def isShown
    (c : Char) : Bool :=
  if c.toNat < 0x7F then
    ' ' ≤ c
  else
    !invisible.contains c.toNat && !Binary.graphemeExtend.codePoints.contains c.toNat

/-- A character given by its number. -/
def escaped
    (c : Char) : String :=
  "\\u\x7b" ++ String.ofList (Nat.toDigits 16 c.toNat) ++ "\x7d"

def quoteChar (c : Char) : String :=
  match c with
  | '\x00' => "\\0"
  | '"' => "\\\""
  | '\\' => "\\\\"
  | '\n' => "\\n"
  | '\r' => "\\r"
  | '\t' => "\\t"
  | c => if isShown c then c.toString else escaped c

def quoted
    (s : String) : String :=
  "\"" ++ String.join (s.toList.map quoteChar) ++ "\""

/-- A list of items that are written out already. -/
def list
    (items : List String) : String :=
  "[" ++ String.intercalate ", " items ++ "]"

def call
    (name argument : String) : String :=
  name ++ "(" ++ argument ++ ")"

def option {α : Type}
    (write : α → String) : Option α → String
  | some a => call "Some" (write a)
  | none => "None"

def bool
    (b : Bool) : String :=
  if b then "true" else "false"

/-- The fields of a record, without its braces. -/
def fields
    (fs : List (String × String)) : String :=
  String.intercalate ", " (fs.map fun f => f.1 ++ ": " ++ f.2)

/-- A record that is shown with all its fields. -/
def record
    (name : String) (fs : List (String × String)) : String :=
  name ++ " \x7b " ++ fields fs ++ " \x7d"

/-- A record that has more fields than are shown. -/
def partialRecord
    (name : String) (fs : List (String × String)) : String :=
  name ++ " \x7b " ++ fields fs ++ ", .. \x7d"

end Inspection
end TriggerScript
