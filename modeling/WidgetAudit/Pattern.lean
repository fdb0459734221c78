import WidgetAudit.Pattern.Engine

/-!
# Patterns

A pattern is a text together with the regular expression that it writes. A mark in front makes
case not count; the engine compiles what stands behind it. The text alone determines the
expression, so two patterns of one text are equal. A pattern is searched for: it matches a text
if it matches any part of it, unless it holds on to the ends.
-/

namespace WidgetAudit

variable [RegexEngine]

namespace Pattern

/-- The flag in front of a pattern that makes case not count. -/
def ignoreCaseMark : List Char := "(?i)".toList

/-- The regular expression that a text writes, if the engine compiles it. -/
def regexOf (source : String) : Except Fault RegexEngine.Regex :=
  match ignoreCaseMark.isPrefixOf? source.toList with
  | some rest => RegexEngine.compile true (String.ofList rest)
  | none => RegexEngine.compile false source

end Pattern

/-- A text that writes a regular expression, with that expression. -/
structure Pattern where
  source : String
  regex : RegexEngine.Regex
  regex_eq : Pattern.regexOf source = .ok regex

namespace Pattern

/-- Two patterns of one text are equal. -/
theorem ext {first second : Pattern} (same : first.source = second.source) : first = second := by
  obtain ⟨source, regex, regexOf⟩ := first
  obtain ⟨source', regex', regexOf'⟩ := second
  subst same
  obtain rfl : regex = regex' := Except.ok.inj (regexOf.symm.trans regexOf')
  rfl

instance : DecidableEq Pattern := fun first second =>
  if same : first.source = second.source then isTrue (ext same)
  else isFalse fun equal => same (equal ▸ rfl)

/-- The pattern that a text writes. -/
def compile (source : String) : Except Fault Pattern :=
  match regex_eq : regexOf source with
  | .ok regex => .ok ⟨source, regex, regex_eq⟩
  | .error fault => .error fault

/-- Every pattern is what its own text writes, and a text writes no other one. -/
theorem compile_eq_ok_iff {source : String} {pattern : Pattern} :
    compile source = .ok pattern ↔ pattern.source = source := by
  unfold compile
  split
  · rename_i regex compiled
    constructor
    · intro same
      cases same
      rfl
    · intro same
      exact congrArg Except.ok (ext same.symm)
  · rename_i fault refused
    constructor
    · intro same
      cases same
    · intro same
      subst same
      exact absurd (pattern.regex_eq.symm.trans refused) (by simp)

/-- Whether a pattern matches some part of a text. -/
def matchesIn (pattern : Pattern) (text : String) : Bool :=
  RegexEngine.isFoundIn pattern.regex text

end Pattern

end WidgetAudit
