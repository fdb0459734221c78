/-!
# Regular expression engines

Patterns are compiled and searched for by an engine of regular expressions, which the rest of
the library takes as it finds it: nothing is assumed of what an engine accepts, of what it
finds, or of the words in which it refuses.
-/

namespace WidgetAudit

/-- Why a text is no pattern, in the words of the engine that refused it. -/
structure Pattern.Fault where
  message : String
deriving DecidableEq

/-- An engine of regular expressions. -/
class RegexEngine where
  /-- A compiled regular expression. -/
  Regex : Type
  /-- Compile the text of a regular expression, where case may or may not count. -/
  compile (ignoreCase : Bool) (text : String) : Except Pattern.Fault Regex
  /-- Whether a regular expression matches some part of a text. -/
  isFoundIn (regex : Regex) (text : String) : Bool

end WidgetAudit
