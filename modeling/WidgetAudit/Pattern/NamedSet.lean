import WidgetAudit.Pattern.CharSet
import WidgetAudit.Text.Property
import WidgetAudit.Text.Script

/-!
# Sets of characters by name

Patterns name sets of characters in four ways: by a letter such as `d`, by a word of ASCII
classes such as `alpha`, by the name of a property, and by a property with a value. Names
of properties are compared without regard to case, blanks, dashes and underscores, and a
leading `is` does not count.
-/

namespace WidgetAudit.Pattern

/-! ### Letters and words -/

/-- The sets that a letter names. -/
inductive LetterSet
  | digit
  | space
  | word
deriving DecidableEq

/-- The characters that a letter names among all characters. -/
def LetterSet.characters : LetterSet → CharSet
  | .digit => .having Text.Category.nd.contains Text.Category.nd.size
  | .space => .having Text.Property.whiteSpace.contains Text.Property.whiteSpace.size
  | .word => .having Text.Property.word 770

/-- The characters that a letter names among those of ASCII. -/
def LetterSet.asciiCharacters : LetterSet → CharSet
  | .digit => .ofRanges [('0', '9')]
  | .space => .ofRanges [('\t', '\r'), (' ', ' ')]
  | .word => .ofRanges [('0', '9'), ('A', 'Z'), ('_', '_'), ('a', 'z')]

/-- The ASCII characters that a word names. -/
def asciiClass? (word : String) : Option CharSet :=
  match word with
  | "alnum" => some (.ofRanges [('0', '9'), ('A', 'Z'), ('a', 'z')])
  | "alpha" => some (.ofRanges [('A', 'Z'), ('a', 'z')])
  | "ascii" => some (.range 0 0x7F)
  | "blank" => some (.ofRanges [('\t', '\t'), (' ', ' ')])
  | "cntrl" => some (.union (.range 0 0x1F) (.range 0x7F 0x7F))
  | "digit" => some (.ofRanges [('0', '9')])
  | "graph" => some (.ofRanges [('!', '~')])
  | "lower" => some (.ofRanges [('a', 'z')])
  | "print" => some (.ofRanges [(' ', '~')])
  | "punct" => some (.ofRanges [('!', '/'), (':', '@'), ('[', '\x60'), ('{', '~')])
  | "space" => some (.ofRanges [('\t', '\r'), (' ', ' ')])
  | "upper" => some (.ofRanges [('A', 'Z')])
  | "word" => some (.ofRanges [('0', '9'), ('A', 'Z'), ('_', '_'), ('a', 'z')])
  | "xdigit" => some (.ofRanges [('0', '9'), ('A', 'F'), ('a', 'f')])
  | _ => none

/-! ### Properties -/

/-- A name in the form in which names are compared. The name that is left of `isc` keeps
its beginning, because the letter alone means something else. -/
def comparableName (name : List Char) : String :=
  let (hasIs, rest) := match name with
    | first :: second :: rest =>
      if first.toLower = 'i' ∧ second.toLower = 's' then (true, rest) else (false, name)
    | _ => (false, name)
  let letters := (rest.filter fun char =>
    char.toNat < 128 && char != ' ' && char != '_' && char != '-').map Char.toLower
  if hasIs ∧ letters = ['c'] then "isc" else String.ofList letters

/-- The long names of the general categories and of their groups, with the short names of
the categories in them. -/
def categoryNames : List (List String × List String) := [
  (["c", "other"], ["Cc", "Cf", "Co"]),
  (["cc", "control", "cntrl"], ["Cc"]),
  (["cf", "format"], ["Cf"]),
  (["co", "privateuse"], ["Co"]),
  (["l", "letter"], ["Lu", "Ll", "Lt", "Lm", "Lo"]),
  (["lc", "casedletter"], ["Lu", "Ll", "Lt"]),
  (["ll", "lowercaseletter"], ["Ll"]),
  (["lm", "modifierletter"], ["Lm"]),
  (["lo", "otherletter"], ["Lo"]),
  (["lt", "titlecaseletter"], ["Lt"]),
  (["lu", "uppercaseletter"], ["Lu"]),
  (["m", "mark", "combiningmark"], ["Mn", "Mc", "Me"]),
  (["mc", "spacingmark"], ["Mc"]),
  (["me", "enclosingmark"], ["Me"]),
  (["mn", "nonspacingmark"], ["Mn"]),
  (["n", "number"], ["Nd", "Nl", "No"]),
  (["nd", "decimalnumber", "digit"], ["Nd"]),
  (["nl", "letternumber"], ["Nl"]),
  (["no", "othernumber"], ["No"]),
  (["p", "punctuation", "punct"], ["Pc", "Pd", "Ps", "Pe", "Pi", "Pf", "Po"]),
  (["pc", "connectorpunctuation"], ["Pc"]),
  (["pd", "dashpunctuation"], ["Pd"]),
  (["pe", "closepunctuation"], ["Pe"]),
  (["pf", "finalpunctuation"], ["Pf"]),
  (["pi", "initialpunctuation"], ["Pi"]),
  (["po", "otherpunctuation"], ["Po"]),
  (["ps", "openpunctuation"], ["Ps"]),
  (["s", "symbol"], ["Sm", "Sc", "Sk", "So"]),
  (["sc", "currencysymbol"], ["Sc"]),
  (["sk", "modifiersymbol"], ["Sk"]),
  (["sm", "mathsymbol"], ["Sm"]),
  (["so", "othersymbol"], ["So"]),
  (["z", "separator"], ["Zs", "Zl", "Zp"]),
  (["zl", "lineseparator"], ["Zl"]),
  (["zp", "paragraphseparator"], ["Zp"]),
  (["zs", "spaceseparator"], ["Zs"])]

/-- The characters of some categories. -/
def categorySet (shortNames : List String) : CharSet :=
  let categories := (Text.Category.all.filter fun category =>
    shortNames.contains category.1).map Prod.snd
  .having (Text.Property.isIn categories)
    (categories.foldr (fun category size => category.size + size) 0)

/-- The characters that have a category. -/
def assigned : CharSet := categorySet (Text.Category.all.map Prod.fst)

/-- The characters of a category, of a group of categories, or of one of the three sets that
are named like categories. The group of the other characters holds the unassigned ones. -/
def category? (name : String) : Option CharSet :=
  if name = "any" then some .everything
  else if name = "assigned" then some assigned
  else if name = "ascii" then some (.range 0 0x7F)
  else if name = "cn" ∨ name = "unassigned" then some (.complement assigned)
  else if name = "cs" ∨ name = "surrogate" then none
  else match categoryNames.find? fun entry => entry.1.contains name with
    | none => none
    | some (_, shortNames) =>
      let set := categorySet shortNames
      some (if name = "c" ∨ name = "other" then .union set (.complement assigned) else set)

/-- The characters of a script. -/
def script? (name : String) : Option CharSet :=
  (Text.Script.named? name).map fun script =>
    .having script.characters.contains script.characters.size

/-- The characters that are used with a script. -/
def usedWithScript? (name : String) : Option CharSet :=
  (Text.Script.named? name).map fun script => .having script.isUsedWith script.characters.size

/-- The characters that a name stands for: a property comes first, then a category, then a
script. Three names are those of categories although properties are named so too. -/
def namedSet? (name : String) : Option CharSet :=
  let property :=
    if name = "cf" ∨ name = "sc" ∨ name = "lc" then none
    else (Text.Property.named? name).map fun property => CharSet.having property 400
  (property.or (category? name)).or (script? name)

/-- The characters for which a property has a value. -/
def valueSet? (property value : String) : Option CharSet :=
  if property = "generalcategory" ∨ property = "gc" then category? value
  else if property = "script" ∨ property = "sc" then script? value
  else if property = "scriptextensions" ∨ property = "scx" then usedWithScript? value
  else none

/-- Split a text at the first place where a separator stands. -/
def splitAtFirst? (separator : List Char) : List Char → Option (List Char × List Char)
  | [] => none
  | char :: rest =>
    match separator.isPrefixOf? (char :: rest) with
    | some behind => some ([], behind)
    | none => (splitAtFirst? separator rest).map fun found => (char :: found.1, found.2)

/-- The characters that a text between braces stands for: a name, or a property and a value
with a colon or an equals sign between them, of which an exclamation mark means the other
characters. -/
def bracedSet? (text : List Char) : Option CharSet :=
  match splitAtFirst? ['!', '='] text with
  | some (property, value) =>
    (valueSet? (comparableName property) (comparableName value)).map .complement
  | none =>
    match (splitAtFirst? [':'] text).or (splitAtFirst? ['='] text) with
    | some (property, value) => valueSet? (comparableName property) (comparableName value)
    | none => namedSet? (comparableName text)

end WidgetAudit.Pattern
