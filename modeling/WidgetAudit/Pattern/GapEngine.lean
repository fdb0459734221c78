import WidgetAudit.Pattern.Engine
import WidgetAudit.Pattern.Reading
import WidgetAudit.Pattern.Size

/-!
# An engine that searches by gaps

The engine reads the syntax of `Pattern.Reading` and searches by the sets of gaps that matches
reach. It refuses a pattern that is ill formed, or too large by the estimate of `Pattern.Size`.
-/

namespace WidgetAudit.Pattern

/-- Read a regular expression, if it is well formed and not too large. -/
def readSized (flags : Flags) (text : List Char) : Except Defect Regex := do
  let regex ← wholePattern flags text
  if regex.fits then return regex else throw .tooLarge

/-- The engine that searches by gaps. -/
instance gapEngine : RegexEngine where
  Regex := Regex
  compile ignoreCase text :=
    (readSized { ignoreCase } text.toList).mapError fun defect => ⟨defect.message⟩
  isFoundIn regex text := regex.isFoundIn text.toList

end WidgetAudit.Pattern
