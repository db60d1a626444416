/-!
# Texts measured in bytes

Offsets into a text count the bytes of its UTF-8 form, so that only some offsets fall
between two characters. Cutting a text at an offset fails on all others.
-/

namespace TriggerScript
namespace Text

/-- The number of bytes of a list of characters. -/
def byteLength : List Char → Nat
  | [] => 0
  | c :: cs => c.utf8Size + byteLength cs

@[simp] theorem byteLength_nil :
    byteLength [] = 0 := by
  rfl

@[simp] theorem byteLength_cons
    (c : Char) (cs : List Char) :
    byteLength (c :: cs) = c.utf8Size + byteLength cs := by
  rfl

@[simp] theorem byteLength_append
    (cs ds : List Char) :
    byteLength (cs ++ ds) = byteLength cs + byteLength ds := by
  induction cs with
  | nil =>
      simp
  | cons c cs ih =>
      simp [ih, Nat.add_assoc]

/-- The characters before and after a byte offset, if it falls between two characters. -/
def splitBytes?
    (n : Nat) : List Char → Option (List Char × List Char)
  | [] => if n = 0 then some ([], []) else none
  | c :: cs =>
      if n = 0 then
        some ([], c :: cs)
      else if c.utf8Size ≤ n then
        (splitBytes? (n - c.utf8Size) cs).map fun r => (c :: r.1, r.2)
      else
        none

/-- The characters between two byte offsets, if both
fall between two characters and are in order. -/
def sliceBytes?
    (start stop : Nat) (cs : List Char) : Option (List Char) :=
  if start ≤ stop then
    match splitBytes? start cs with
    | some (_, after) => (splitBytes? (stop - start) after).map Prod.fst
    | none => none
  else
    none

end Text
end TriggerScript
