/-!
# Splitting a text

A text with separators in it is a list of parts: one more than there are separators, and
some of them possibly empty.
-/

namespace TriggerScript
namespace Text

def splitOn
    (separator : Char) : List Char → List (List Char)
  | [] => [[]]
  | c :: cs =>
      if c = separator then
        [] :: splitOn separator cs
      else
        match splitOn separator cs with
        | [] => [[c]]
        | part :: parts => (c :: part) :: parts

end Text
end TriggerScript
