/-!
# Dialects of regular expressions

The bodies of captures are regular expressions. Which texts count as one is up to a
dialect, and so are the words in which it turns a text down: patterns are read in the
same way in every dialect.
-/

namespace TriggerScript
namespace Regex

/-- A dialect of regular expressions, as far as patterns depend on it. -/
class Dialect where
  /-- Why a text is turned down, in words; nothing if it is accepted. -/
  complaint? : List Char → Option String

end Regex
end TriggerScript
