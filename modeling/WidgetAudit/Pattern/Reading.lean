import WidgetAudit.Pattern.Defect
import WidgetAudit.Pattern.NamedSet
import WidgetAudit.Pattern.Regex
import WidgetAudit.Text.Blank

/-!
# Reading patterns

A pattern is read from the left, and each of its parts becomes a regular expression at
once, under the flags in force where it stands. Flags that a group sets end with the
group. Every part comes with its height, that is, how deep groups, repetitions, classes and
enumerations nest in it; a pattern may not be higher than `heightLimit`.

Groups inside groups are read by a reader that is handed down, so the only recursion is on
the number of groups that may still be opened; the same holds for classes inside classes.
-/

namespace WidgetAudit.Pattern

/-- The greatest height of a pattern. -/
def heightLimit : Nat := 250

/-- What the flags of a pattern say. -/
structure Flags where
  ignoreCase : Bool := false
  multiLine : Bool := false
  dotAll : Bool := false
  ignoreSpace : Bool := false
  unicode : Bool := true
  returnLines : Bool := false

/-- How far the reading has come: what is left, the flags in force, and the names that
groups have been given. -/
structure Place where
  rest : List Char
  flags : Flags
  names : List (List Char)

/-- A reader of a part of a pattern. -/
abbrev Reading := StateT Place (Except Defect)

/-- A part of a pattern, with its height. -/
structure Piece (α : Type) where
  part : α
  height : Nat

/-! ### Steps -/

/-- The next character, which is not taken. -/
def peek : Reading (Option Char) := do return (← get).rest.head?

/-- Take so many characters. -/
def skip (count : Nat) : Reading Unit :=
  modify fun place => { place with rest := place.rest.drop count }

/-- The next character, which is taken; its absence is a defect. -/
def takeChar (defect : Defect) : Reading Char := do
  match (← get).rest with
  | [] => throw defect
  | char :: rest =>
    modify fun place => { place with rest }
    return char

/-- Take a character if it is the next one. -/
def takeIf (wanted : Char) : Reading Bool := do
  if (← peek) = some wanted then
    skip 1
    return true
  else
    return false

/-- What follows blanks and comments; a comment runs from `#` to the end of its line. -/
def behindSpace (inComment : Bool) : List Char → List Char
  | [] => []
  | char :: rest =>
    if inComment then behindSpace (char != '\n') rest
    else if Text.isBlank char then behindSpace false rest
    else if char = '#' then behindSpace true rest
    else char :: rest

/-- Take blanks and comments, if the flags say that they do not count. -/
def skipSpace : Reading Unit := do
  if (← get).flags.ignoreSpace then
    modify fun place => { place with rest := behindSpace false place.rest }

/-- Repeat a step as long as it gives a new state. A round that takes nothing is the last
one. -/
def loop {σ : Type} (step : σ → Reading (Option σ)) (state : σ) (place : Place) :
    Except Defect (σ × Place) :=
  match step state place with
  | .error defect => .error defect
  | .ok (none, later) => .ok (state, later)
  | .ok (some next, later) =>
    if later.rest.length < place.rest.length then loop step next later else .ok (next, later)
termination_by place.rest.length

/-! ### Numbers -/

/-- Take blanks, whatever the flags say. -/
def skipBlanks : Reading Unit :=
  modify fun place => { place with rest := place.rest.dropWhile Text.isBlank }

/-- One more character that passes a test, with the space behind it. -/
def charStep (test : Char → Bool) (chars : List Char) : Reading (Option (List Char)) := do
  match ← peek with
  | some char =>
    if test char then
      skip 1
      skipSpace
      return some (chars ++ [char])
    else
      return none
  | none => return none

/-- A count in braces: digits between blanks, for a number of 32 bits. -/
def count : Reading Nat := do
  skipBlanks
  let digits ← loop (charStep Char.isDigit) []
  skipBlanks
  let value := digits.foldl (fun value digit => 10 * value + (digit.toNat - '0'.toNat)) 0
  if digits = [] ∨ UInt32.size ≤ value then throw .faultyRepetition
  return value

/-- Whether a character is a hexadecimal digit. -/
def isHexDigit (char : Char) : Bool :=
  char.isDigit || ('a' ≤ char && char ≤ 'f') || ('A' ≤ char && char ≤ 'F')

/-- The character whose code point hexadecimal digits write. -/
def charOfHex? (digits : List Char) : Option Char :=
  let code := Text.CodeRanges.hexNumber (digits.map Char.toUpper)
  if code.isValidChar then some (Char.ofNat code) else none

/-! ### Escapes -/

/-- What a backslash begins: a character, a set, or an assertion. A character written as two
hexadecimal digits stands for a byte where a pattern is not about Unicode. -/
inductive Escape
  | char (char : Char) (isByte : Bool)
  | letterSet (set : LetterSet) (negated : Bool)
  | named (set : CharSet) (negated : Bool)
  | assertion (kind : Bool → Assertion)

/-- So many hexadecimal digits. -/
def hexDigits : Nat → Reading (List Char)
  | 0 => return []
  | count + 1 => do
    skipSpace
    let digit ← takeChar .faultyEscape
    if !isHexDigit digit then throw .faultyEscape
    return digit :: (← hexDigits count)

/-- Hexadecimal digits up to a closing brace. -/
def bracedHex : Reading (List Char) := do
  skipSpace
  let digits ← loop (charStep isHexDigit) []
  if (← takeChar .faultyEscape) ≠ '}' ∨ digits = [] then throw .faultyEscape
  return digits

/-- A code point, behind the letter that announces it: digits in braces or as many digits as
belong to the letter. -/
def codePoint (letter : Char) : Reading Escape := do
  skipSpace
  let braced := (← peek) = some '{'
  let digits ←
    if braced then do
      skip 1
      bracedHex
    else hexDigits (if letter = 'x' then 2 else if letter = 'u' then 4 else 8)
  skipSpace
  match charOfHex? digits with
  | some char => return .char char (letter = 'x' && !braced)
  | none => throw .faultyEscape

/-- A character of a name in braces. -/
def nameStep (name : List Char) : Reading (Option (List Char)) := do
  skipSpace
  match ← peek with
  | none => throw .faultyEscape
  | some '}' => return none
  | some char =>
    skip 1
    return some (name ++ [char])

/-- A property, behind its letter: one letter or a text in braces. -/
def property (negated : Bool) : Reading Escape := do
  if !(← get).flags.unicode then throw .notUnicode
  skipSpace
  let first ← takeChar .faultyEscape
  let set ←
    if first = '{' then do
      let name ← loop nameStep []
      skip 1
      pure (bracedSet? name)
    else if first = '\\' then throw .faultyEscape
    else do
      skipSpace
      pure (namedSet? (comparableName [first]))
  match set with
  | some set => return .named set negated
  | none => throw .unknownProperty

/-- A letter of the name of a word boundary. -/
def isBoundaryChar (char : Char) : Bool := char.isAlpha || char == '-'

/-- What follows the escape of a word boundary: perhaps a brace with the name of a special
one. A brace with anything else is left for a repetition. -/
def wordBoundary : Reading Escape := do
  let before ← get
  if !(← takeIf '{') then return .assertion .wordBoundary
  skipSpace
  match ← peek with
  | none => throw .faultyEscape
  | some char =>
    if !isBoundaryChar char then
      set before
      return .assertion .wordBoundary
    let name ← loop (charStep isBoundaryChar) []
    if (← takeChar .faultyEscape) ≠ '}' then throw .faultyEscape
    match String.ofList name with
    | "start" => return .assertion .wordStart
    | "end" => return .assertion .wordEnd
    | "start-half" => return .assertion .wordStartHalf
    | "end-half" => return .assertion .wordEndHalf
    | _ => throw .faultyEscape

/-- Whether a character stands for itself behind a backslash: every ASCII character that is
neither a letter nor a digit nor an angle bracket. -/
def isEscapable (char : Char) : Bool :=
  char.toNat < 128 && !char.isAlphanum && char != '<' && char != '>'

/-- An escape, behind its backslash. -/
def escape : Reading Escape := do
  let letter ← takeChar .faultyEscape
  if isEscapable letter then return .char letter false
  match letter with
  | 'x' | 'u' | 'U' => codePoint letter
  | 'p' => property false
  | 'P' => property true
  | 'd' => return .letterSet .digit false
  | 'D' => return .letterSet .digit true
  | 's' => return .letterSet .space false
  | 'S' => return .letterSet .space true
  | 'w' => return .letterSet .word false
  | 'W' => return .letterSet .word true
  | 'a' => return .char '\x07' false
  | 'f' => return .char '\x0c' false
  | 't' => return .char '\t' false
  | 'n' => return .char '\n' false
  | 'r' => return .char '\r' false
  | 'v' => return .char '\x0b' false
  | 'A' => return .assertion fun _ => .textStart
  | 'z' => return .assertion fun _ => .textEnd
  | 'b' => wordBoundary
  | 'B' => return .assertion .noWordBoundary
  | '<' => return .assertion .wordStart
  | '>' => return .assertion .wordEnd
  | _ => throw .faultyEscape

/-! ### Sets under flags -/

/-- A set with the other cases of its letters, if case does not count. -/
def underCase (flags : Flags) (set : CharSet) : CharSet :=
  if !flags.ignoreCase then set
  else if flags.unicode then .ignoringCase set
  else .ignoringAsciiCase set

/-- A set or its complement. Without Unicode a complement would hold parts of characters. -/
def negatedIf (flags : Flags) (negated : Bool) (set : CharSet) : Except Defect CharSet :=
  if !negated then .ok set
  else if flags.unicode then .ok (.complement set)
  else .error .notUnicode

/-- The characters of a letter's set. They do not change with case. -/
def letterSet (flags : Flags) (set : LetterSet) (negated : Bool) : Except Defect CharSet :=
  negatedIf flags negated (if flags.unicode then set.characters else set.asciiCharacters)

/-- One character as a member of a class. Without Unicode it has to be of ASCII. -/
def classChar (flags : Flags) (char : Char) : Except Defect Char :=
  if flags.unicode ∨ char.toNat < 128 then .ok char else .error .notUnicode

/-- One character of a pattern. Without Unicode a character beyond ASCII may not be written
as a byte, and has no case. -/
def charRegex (flags : Flags) (char : Char) (isByte : Bool) : Except Defect Regex :=
  if !flags.unicode ∧ isByte ∧ 128 ≤ char.toNat then .error .notUnicode
  else .ok (.oneOf (underCase flags (.single char)))

/-! ### Classes -/

/-- The operations between sets in a class. -/
inductive SetOperation
  | intersection
  | difference
  | symmetricDifference

/-- The result of an operation. -/
def SetOperation.apply : SetOperation → CharSet → CharSet → CharSet
  | .intersection => .intersection
  | .difference => .difference
  | .symmetricDifference => .symmetricDifference

/-- A class that is being read: the items since the last operation, latest first, and that
operation with its left operand. -/
structure OpenClass where
  items : List (Piece CharSet) := []
  pending : Option (SetOperation × Piece CharSet) := none

/-- The union of the items since the last operation. Several items make an enumeration,
which adds to the height. -/
def OpenClass.union (openClass : OpenClass) : Piece CharSet :=
  match openClass.items with
  | [item] => item
  | [] => ⟨.nothing, 0⟩
  | items => ⟨.unionOf (items.map (·.part)), (items.map (·.height)).foldl max 0 + 1⟩

/-- What has been read so far, with the last operation carried out. -/
def OpenClass.value (flags : Flags) (openClass : OpenClass) : Piece CharSet :=
  let right := openClass.union
  match openClass.pending with
  | none => right
  | some (operation, left) =>
    ⟨operation.apply (underCase flags left.part) (underCase flags right.part),
      max left.height right.height + 1⟩

/-- A class of ASCII characters by its word, behind an opening bracket: whether it is
negated, its set, and what follows it. -/
def asciiClassAt? (text : List Char) : Option (Bool × CharSet × List Char) :=
  match text with
  | ':' :: behind =>
    let (negated, behind) := match behind with
      | '^' :: behind => (true, behind)
      | behind => (false, behind)
    let word := behind.takeWhile (· != ':')
    match behind.dropWhile (· != ':') with
    | ':' :: ']' :: rest => (asciiClass? (String.ofList word)).map fun set => (negated, set, rest)
    | _ => none
  | _ => none

/-- An item of a class, or one end of a range. -/
def classItem : Reading Escape := do
  let char ← takeChar .unclosedClass
  if char = '\\' then escape else return .char char false

/-- An item as a set. Assertions are none. -/
def itemSet (flags : Flags) : Escape → Except Defect CharSet
  | .char char _ => (classChar flags char).map .single
  | .letterSet set negated => letterSet flags set negated
  | .named set negated => negatedIf flags negated (underCase flags set)
  | .assertion _ => .error .faultyClassItem

/-- The range between two items, which have to be characters in ascending order. -/
def rangeSet (flags : Flags) : Escape → Escape → Except Defect CharSet
  | .char first _, .char last _ =>
    if last < first then .error .faultyRange
    else do return .range (← classChar flags first).toNat (← classChar flags last).toNat
  | _, _ => .error .faultyRange

/-- The character behind the next one, with blanks and the beginnings of comments passed
over if the flags say that they do not count. -/
def peekBehind : Reading (Option Char) := do
  let place ← get
  let behind := place.rest.drop 1
  if !place.flags.ignoreSpace then return behind.head?
  match behind.dropWhile Text.isBlank with
  | '#' :: comment => return (comment.dropWhile Text.isBlank).head?
  | rest => return rest.head?

/-- An item or a range. A dash before a bracket or another dash makes no range. -/
def itemOrRange : Reading CharSet := do
  let flags := (← get).flags
  let first ← classItem
  skipSpace
  match ← peek with
  | none => throw .unclosedClass
  | some '-' =>
    match ← peekBehind with
    | some ']' | some '-' => itemSet flags first
    | _ =>
      skip 1
      skipSpace
      let last ← classItem
      rangeSet flags first last
  | some _ => itemSet flags first

/-- The operation that two characters write. -/
def operation? : List Char → Option SetOperation
  | '&' :: '&' :: _ => some .intersection
  | '-' :: '-' :: _ => some .difference
  | '~' :: '~' :: _ => some .symmetricDifference
  | _ => none

/-- One step inside a class: nothing at its closing bracket. -/
def classStep (inner : Reading (Piece CharSet)) (openClass : OpenClass) :
    Reading (Option OpenClass) := do
  skipSpace
  let place ← get
  match place.rest with
  | [] => throw .unclosedClass
  | ']' :: _ => return none
  | '[' :: behind =>
    match asciiClassAt? behind with
    | some (negated, set, rest) =>
      modify fun place => { place with rest }
      let set ← negatedIf place.flags negated (underCase place.flags set)
      return some { openClass with items := ⟨set, 0⟩ :: openClass.items }
    | none =>
      let nested ← inner
      return some { openClass with items := nested :: openClass.items }
  | rest =>
    match operation? rest with
    | some operation =>
      skip 2
      return some { pending := some (operation, openClass.value place.flags) }
    | none =>
      let set ← itemOrRange
      return some { openClass with items := ⟨set, 0⟩ :: openClass.items }

/-- Take a character of the beginning of a class, behind which something has to follow. -/
def skipInClass : Reading Unit := do
  skip 1
  skipSpace
  if (← peek).isNone then throw .unclosedClass

/-- A dash at the beginning of a class, which stands for itself. -/
def leadingDash (items : List (Piece CharSet)) : Reading (Option (List (Piece CharSet))) := do
  if (← peek) = some '-' then
    skipInClass
    return some (⟨.single '-', 0⟩ :: items)
  else
    return none

/-- A class, from its opening bracket to its closing one. Dashes at its beginning stand for
themselves, and so does a closing bracket that is its first item. -/
def classWith (inner : Reading (Piece CharSet)) : Reading (Piece CharSet) := do
  let flags := (← get).flags
  skipInClass
  let negated := (← peek) = some '^'
  if negated then skipInClass
  let dashes ← loop leadingDash []
  let items ←
    if dashes.isEmpty ∧ (← peek) = some ']' then do
      skipInClass
      pure [⟨.single ']', 0⟩]
    else pure dashes
  let openClass ← loop (classStep inner) { items }
  skip 1
  let whole := openClass.value flags
  let set ← negatedIf flags negated (underCase flags whole.part)
  return ⟨set, whole.height + 1⟩

/-- A class in which so many classes may be opened inside one another. -/
def charClass : Nat → Reading (Piece CharSet)
  | 0 => classWith (throw .tooNested)
  | depth + 1 => classWith (charClass depth)

/-! ### Groups and flags -/

/-- The flags behind a question mark, up to the colon or the parenthesis that ends them:
the new flags, that character, and what follows it. -/
def readFlags (flags : Flags) (seen : List Char) (enable : Bool) (afterDash : Bool) :
    List Char → Except Defect (Flags × Char × List Char)
  | [] => .error .faultyFlags
  | char :: rest =>
    if char = ':' ∨ char = ')' then
      if afterDash ∨ (char = ')' ∧ seen = []) then .error .faultyFlags
      else .ok (flags, char, rest)
    else if seen.contains char then .error .faultyFlags
    else
      let goOn (flags : Flags) := readFlags flags (char :: seen) enable false rest
      match char with
      | '-' => readFlags flags (char :: seen) false true rest
      | 'i' => goOn { flags with ignoreCase := enable }
      | 'm' => goOn { flags with multiLine := enable }
      | 's' => goOn { flags with dotAll := enable }
      | 'U' => goOn flags
      | 'u' => goOn { flags with unicode := enable }
      | 'R' => goOn { flags with returnLines := enable }
      | 'x' => goOn { flags with ignoreSpace := enable }
      | _ => .error .faultyFlags

/-- Whether a character may stand in the name of a group. -/
def isGroupNameChar (first : Bool) (char : Char) : Bool :=
  let code := char.toNat
  char == '_' || Text.Property.alphabetic code ||
    (!first && (char == '.' || char == '[' || char == ']' ||
      Text.Property.isIn [Text.Category.nd, Text.Category.nl, Text.Category.no] code))

/-- The name of a group, up to its closing angle bracket. -/
def groupName : Reading Unit := do
  let place ← get
  let name := place.rest.takeWhile (· != '>')
  let behind := place.rest.dropWhile (· != '>')
  let isName : Bool := match name with
    | [] => false
    | first :: others => isGroupNameChar true first && others.all (isGroupNameChar false)
  if behind = [] ∨ !isName then throw .faultyGroupName
  if place.names.contains name then throw .repeatedGroupName
  set { place with rest := behind.drop 1, names := name :: place.names }

/-- What a parenthesis opens: a group whose match is kept, one whose match is not, or no group
at all but flags for what follows. -/
inductive GroupHead
  | kept
  | plain
  | flags
deriving DecidableEq

/-- How a group begins behind its parenthesis. -/
def groupHead : Reading GroupHead := do
  skipSpace
  let place ← get
  match place.rest with
  | '?' :: '=' :: _ | '?' :: '!' :: _ | '?' :: '<' :: '=' :: _ | '?' :: '<' :: '!' :: _ =>
    throw .lookAround
  | '?' :: 'P' :: '<' :: rest | '?' :: '<' :: rest =>
    set { place with rest }
    groupName
    return .kept
  | '?' :: rest =>
    let (flags, last, rest) ← readFlags place.flags [] true false rest
    set { place with rest, flags }
    return if last = ':' then .plain else .flags
  | _ => return .kept

/-! ### Concatenations and alternatives -/

/-- A part of a concatenation: an expression, or flags that have been set, which match
nothing and cannot be repeated. -/
inductive Item
  | regex (piece : Piece Regex)
  | flags

/-- The height of an item. -/
def Item.height : Item → Nat
  | .regex piece => piece.height
  | .flags => 0

/-- The expression of an item. -/
def Item.part : Item → Regex
  | .regex piece => piece.part
  | .flags => .empty

/-- Items one after the other, latest first. Several of them add to the height. -/
def concatenation : List Item → Piece Regex
  | [] => ⟨.empty, 0⟩
  | [item] => ⟨item.part, item.height⟩
  | items => ⟨.sequenceOf (items.reverse.map Item.part), (items.map Item.height).foldl max 0 + 1⟩

/-- Repeat the latest item. -/
def repeatLatest (least : Nat) (most : Option Nat) (items : List Item) :
    Except Defect (List Item) :=
  match items with
  | .regex piece :: others =>
    .ok (.regex ⟨.repeated piece.part least most, piece.height + 1⟩ :: others)
  | _ => .error .missingOperand

/-- The counts in the braces of a repetition, behind the opening one. -/
def repetitionCounts : Reading (Nat × Option Nat) := do
  skipSpace
  let least ← count
  let most ←
    if ← takeIf ',' then do
      skipSpace
      if (← peek) = some '}' then pure none else some <$> count
    else pure (some least)
  if !(← takeIf '}') then throw .faultyRepetition
  match most with
  | some most => if most < least then throw .faultyRepetition
  | none => pure ()
  skipSpace
  return (least, most)

/-- A group, behind its opening parenthesis, or flags for what follows. -/
def group (inner : Reading (Piece Regex)) : Reading Item := do
  let flags := (← get).flags
  let head ← groupHead
  if head = .flags then return .flags
  let content ← inner
  if !(← takeIf ')') then throw .unclosedGroup
  modify fun place => { place with flags }
  let part := if head = .kept then .kept content.part else content.part
  return .regex { part, height := content.height + 1 }

/-- The dot: any character, or any that does not end a line. -/
def dot (flags : Flags) : Except Defect CharSet :=
  if !flags.unicode then .error .notUnicode
  else if flags.dotAll then .ok .everything
  else if flags.returnLines then .ok (.complement (.union (.single '\n') (.single '\r')))
  else .ok (.complement (.single '\n'))

/-- An escape outside of classes. -/
def escapeRegex (flags : Flags) : Escape → Except Defect Regex
  | .char char isByte => charRegex flags char isByte
  | .letterSet set negated => (letterSet flags set negated).map .oneOf
  | .named set negated => (negatedIf flags negated (underCase flags set)).map .oneOf
  | .assertion kind => .ok (.asserting (kind !flags.unicode))

/-- One step of a concatenation: nothing at its end. A question mark behind a repetition
changes only which match is preferred. -/
def itemStep (inner : Reading (Piece Regex)) (items : List Item) :
    Reading (Option (List Item)) := do
  skipSpace
  let flags := (← get).flags
  let add (item : Item) : Reading (Option (List Item)) := return some (item :: items)
  let leaf (regex : Regex) : Reading (Option (List Item)) := add (.regex ⟨regex, 0⟩)
  match ← peek with
  | none | some ')' | some '|' => return none
  | some '[' =>
    let set ← charClass heightLimit
    add (.regex ⟨.oneOf set.part, set.height⟩)
  | some char =>
    skip 1
    match char with
    | '(' => add (← group inner)
    | '?' =>
      let _ ← takeIf '?'
      some <$> repeatLatest 0 (some 1) items
    | '*' =>
      let _ ← takeIf '?'
      some <$> repeatLatest 0 none items
    | '+' =>
      let _ ← takeIf '?'
      some <$> repeatLatest 1 none items
    | '{' =>
      let counts ← repetitionCounts
      let _ ← takeIf '?'
      some <$> repeatLatest counts.1 counts.2 items
    | '\\' => leaf (← escapeRegex flags (← escape))
    | '.' => leaf (.oneOf (← dot flags))
    | '^' =>
      leaf (.asserting (if !flags.multiLine then .textStart
        else if flags.returnLines then .returnLineStart else .lineStart))
    | '$' =>
      leaf (.asserting (if !flags.multiLine then .textEnd
        else if flags.returnLines then .returnLineEnd else .lineEnd))
    | other => leaf (← charRegex flags other false)

/-- A concatenation. -/
def branch (inner : Reading (Piece Regex)) : Reading (Piece Regex) := do
  let items ← loop (itemStep inner) []
  return concatenation items

/-- A further alternative, if a bar stands here. -/
def branchStep (inner : Reading (Piece Regex)) (branches : List (Piece Regex)) :
    Reading (Option (List (Piece Regex))) := do
  if ← takeIf '|' then return some ((← branch inner) :: branches) else return none

/-- Alternatives. Several of them add to the height. -/
def alternatives (inner : Reading (Piece Regex)) : Reading (Piece Regex) := do
  let first ← branch inner
  match ← loop (branchStep inner) [first] with
  | [] => return first
  | [single] => return single
  | last :: others =>
    return ⟨(others.map (·.part)).foldl (fun later earlier => .either earlier later) last.part,
      (others.map (·.height)).foldl max last.height + 1⟩

/-- Alternatives in which so many groups may be opened inside one another. -/
def content : Nat → Reading (Piece Regex)
  | 0 => alternatives (throw .tooNested)
  | depth + 1 => alternatives (content depth)

/-- A whole pattern. Only a closing parenthesis can be left over. -/
def wholePattern (flags : Flags) (text : List Char) : Except Defect Regex := do
  let (piece, place) ← (content heightLimit).run ⟨text, flags, []⟩
  if place.rest ≠ [] then throw .unopenedGroup
  if heightLimit < piece.height then throw .tooNested
  return piece.part

end WidgetAudit.Pattern
