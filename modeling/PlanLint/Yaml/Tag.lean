import PlanLint.Yaml.Scalar.Moment

/-! Tags: the types of nodes, given by name or recognised from the text of a plain scalar. -/

namespace PlanLint

/-- The types that every document may use. -/
inductive CoreType where
  | null
  | bool
  | int
  | float
  | binary
  | timestamp
  | orderedMap
  | pairs
  | set
  | str
  | seq
  | map
deriving DecidableEq, Repr

/-- The type of a node. -/
inductive Tag where
  | core (type : CoreType)
  /-- A type that is only known by name. -/
  | named (name : List Char)
deriving DecidableEq, Repr

/-- What the names of the core types start with. -/
def coreStart : List Char := "tag:yaml.org,2002:".toList

/-- The core types by the ends of their names. -/
def coreTypes : List (List Char × CoreType) := [
  ("null".toList, .null), ("bool".toList, .bool), ("int".toList, .int), ("float".toList, .float),
  ("binary".toList, .binary), ("timestamp".toList, .timestamp), ("omap".toList, .orderedMap),
  ("pairs".toList, .pairs), ("set".toList, .set), ("str".toList, .str), ("seq".toList, .seq),
  ("map".toList, .map)]

/-- The tag of a key whose value is merged into the mapping around it. -/
def Tag.merge : Tag := .named (coreStart ++ "merge".toList)

/-- The tag of a key that stands for the value of the mapping around it. -/
def Tag.value : Tag := .named (coreStart ++ "value".toList)

/-- The tag with a name. -/
def Tag.ofName (name : List Char) : Tag :=
  if coreStart.isPrefixOf name then
    match coreTypes.find? fun entry => entry.1 == name.drop coreStart.length with
    | some entry => .core entry.2
    | none => .named name
  else .named name

/-- The name of a tag. -/
def Tag.name : Tag → List Char
  | .core type => coreStart ++ ((coreTypes.find? fun entry => entry.2 == type).map (·.1)).getD []
  | .named name => name

/-- A text in which a percent sign and two hexadecimal digits stand for one character. -/
def unescapedName : List Char → List Char
  | '%' :: a :: b :: rest =>
    match hexValue? a, hexValue? b with
    | some high, some low => Char.ofNat (high * 16 + low) :: unescapedName rest
    | _, _ => '%' :: unescapedName (a :: b :: rest)
  | c :: rest => c :: unescapedName rest
  | [] => []

/-- Handles and what they stand for. -/
abbrev Handles := List (List Char × List Char)

/-- The handles that need no declaration. -/
def defaultHandles : Handles := [(['!'], ['!']), (['!', '!'], coreStart)]

/-- What a handle stands for. -/
def handleStart? (handles : Handles) (handle : List Char) : Option (List Char) :=
  (handles.find? fun entry => entry.1 == handle).map (·.2)

/-- The tag with which a lone exclamation mark asks for the type that a plain scalar has. -/
def TagName.isPlain (name : TagName) : Bool := name.handle == none && name.suffix == ['!']

/-- The tag that is written with a handle or without. A string under a handle is not read as one:
it keeps its tag. -/
def TagName.resolve? (name : TagName) (handles : Handles) : Option Tag :=
  let suffix := unescapedName name.suffix
  match name.handle with
  | none => some (.ofName suffix)
  | some handle => (handleStart? handles handle).map fun start =>
    match Tag.ofName (start ++ suffix) with
    | .core .str => .named (start ++ suffix)
    | tag => tag

/-! The shapes of plain scalars. -/

/-- A digit or an underscore. -/
def isDigitOrScore (c : Char) : Bool := isAsciiDigit c || c == '_'

/-- Digits and underscores behind a first digit, and the text behind them. -/
def groupedDigits? : List Char → Option (List Char)
  | c :: rest => if isAsciiDigit c then some (rest.dropWhile isDigitOrScore) else none
  | [] => none

/-- An exponent that takes up a whole text; its sign may be left out or not. -/
def isExponent (needsSign : Bool) : List Char → Bool
  | mark :: rest =>
    let hasSign := rest.head? == some '+' || rest.head? == some '-'
    let digits := if hasSign then rest.drop 1 else rest
    (mark == 'e' || mark == 'E') && (hasSign || !needsSign) && !digits.isEmpty && digits.all isAsciiDigit
  | [] => false

/-- One or more groups of a colon and a number below sixty, and the text behind them. -/
def sixties (text : List Char) : Nat × List Char :=
  match text with
  | ':' :: a :: b :: rest =>
    -- Two digits are taken where they are below sixty, else one.
    if '0' ≤ a && a ≤ '5' && isAsciiDigit b then
      let (n, rest) := sixties rest
      (n + 1, rest)
    else if isAsciiDigit a then
      let (n, rest) := sixties (b :: rest)
      (n + 1, rest)
    else (0, text)
  | [':', a] => if isAsciiDigit a then (1, []) else (0, text)
  | _ => (0, text)
termination_by text.length

/-- A number with a fraction or an exponent, without its sign. -/
def isDecimalShape (text : List Char) : Bool :=
  match groupedDigits? text with
  | none => false
  | some ('.' :: rest) =>
    let rest := rest.dropWhile isDigitOrScore
    rest.isEmpty || isExponent false rest
  | some rest => isExponent false rest

/-- A fraction that starts with its point. -/
def isBareFraction : List Char → Bool
  | '.' :: rest =>
    let behind := rest.dropWhile isDigitOrScore
    behind.length < rest.length && (behind.isEmpty || isExponent true behind)
  | _ => false

/-- Hours, minutes and seconds with a fraction, without a sign. -/
def isSexagesimalFraction (text : List Char) : Bool :=
  match (groupedDigits? text).map sixties with
  | some (n, '.' :: rest) => n > 0 && rest.all isDigitOrScore
  | _ => false

/-- Whether a plain scalar is a floating-point number. -/
def isFloatShape (isFirst : Bool) (text : List Char) : Bool :=
  let unsigned := (splitSign text).2
  isDecimalShape unsigned || isBareFraction (if isFirst then text else unsigned) ||
    (isFirst && isSexagesimalFraction unsigned) ||
    [".inf", ".Inf", ".INF"].contains (String.ofList unsigned) ||
    [".nan", ".NaN", ".NAN"].contains (String.ofList text)

/-- Digits of a base and underscores, at least one of them. -/
def isDigitRun (base : Nat) (text : List Char) : Bool :=
  !text.isEmpty && text.all fun c => c == '_' || (hexValue? c).any (· < base)

/-- Whether a text without a sign has the shape of an integer. -/
def isUnsignedInteger (isFirst : Bool) (text : List Char) : Bool :=
  (match text with
    | '0' :: 'b' :: rest => isDigitRun 2 rest
    | '0' :: 'x' :: rest => isDigitRun 16 rest
    | '0' :: 'o' :: rest => !isFirst && isDigitRun 8 rest
    | _ => false) ||
  if isFirst then
    -- In the first version: octal digits, or decimal ones with groups of sixties behind colons.
    isDigitRun 8 text ||
      (text.head?.any (· != '0') && ((groupedDigits? text).any fun rest =>
        let (n, behind) := sixties rest
        behind.isEmpty && (n > 0 || rest.isEmpty)))
  else isDigitRun 10 text

/-- Whether a plain scalar is an integer; it does not start with an underscore. -/
def isIntegerShape (isFirst : Bool) (text : List Char) : Bool :=
  match text with
  | '-' :: rest => isUnsignedInteger isFirst rest
  | '+' :: rest => isUnsignedInteger isFirst rest
  | '_' :: _ => false
  | _ => isUnsignedInteger isFirst text

/-- The words for truth and falsehood. -/
def booleanWords : List String := ["true", "True", "TRUE", "false", "False", "FALSE"]

/-- More words for them in the first version of the language. -/
def firstBooleanWords : List String := [
  "y", "Y", "yes", "Yes", "YES", "n", "N", "no", "No", "NO", "on", "On", "ON", "off", "Off", "OFF"]

/-- The texts that stand for nothing. -/
def nullWords : List String := ["", "~", "null", "Null", "NULL"]

/-- Whether a plain scalar is a date or a timestamp; a date alone has two digits for month and day. -/
def isMomentShape (text : List Char) : Bool :=
  match readMomentParts text with
  | none => false
  | some parts => parts.clock.isSome || text.length == 10

/-- The tag of a plain scalar, or of one that asks to be read like that. A newline at its end does
not count. -/
def Tag.ofPlain (isFirst : Bool) (scalar : List Char) : Tag :=
  let text := if scalar == ['\n'] then scalar else withoutLastNewline scalar
  let word := String.ofList text
  if booleanWords.contains word || (isFirst && firstBooleanWords.contains word) then .core .bool
  else if isFloatShape isFirst text then .core .float
  else if isIntegerShape isFirst text then .core .int
  else if word == "<<" then .merge
  else if nullWords.contains word then .core .null
  else if isMomentShape text then .core .timestamp
  else if word == "=" then .value
  else .core .str

end PlanLint
