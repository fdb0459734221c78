/-!
# Defects of patterns

What can be wrong with a text that was meant as a pattern.
-/

namespace WidgetAudit.Pattern

/-- Why a text writes no regular expression, or one that is too large. -/
inductive Defect
  | unclosedGroup
  | unopenedGroup
  | faultyFlags
  | faultyGroupName
  | repeatedGroupName
  | lookAround
  | missingOperand
  | faultyRepetition
  | unclosedClass
  | faultyClassItem
  | faultyRange
  | faultyEscape
  | unknownProperty
  | notUnicode
  | tooNested
  | tooLarge
deriving DecidableEq

namespace Defect

/-- What a defect is, in words. -/
def description : Defect → String
  | .unclosedGroup => "unclosed group"
  | .unopenedGroup => "unopened group"
  | .faultyFlags => "unrecognized, repeated or dangling flag"
  | .faultyGroupName => "empty, unclosed or invalid capture group name"
  | .repeatedGroupName => "duplicate capture group name"
  | .lookAround => "look-around is not supported"
  | .missingOperand => "repetition operator missing expression"
  | .faultyRepetition => "unclosed or invalid repetition count"
  | .unclosedClass => "unclosed character class"
  | .faultyClassItem => "invalid escape sequence in character class"
  | .faultyRange => "invalid character class range"
  | .faultyEscape => "incomplete, invalid or unrecognized escape sequence"
  | .unknownProperty => "Unicode property not found"
  | .notUnicode => "pattern can match invalid UTF-8 or needs Unicode"
  | .tooNested => "exceeds the nesting limit of 250"
  | .tooLarge => "too large"

/-- The message about a defect. A pattern that is too large is well formed, so its message
does not speak of reading. -/
def message : Defect → String
  | .tooLarge => "Compiled regex exceeds size limit of 10485760 bytes."
  | defect => "regex parse error: " ++ defect.description

end Defect

end WidgetAudit.Pattern
