import PlanLint.Document.Printed
import PlanLint.Source.Position
import PlanLint.Yaml.Token

/-! What can be wrong with a text, and the words for it. -/

namespace PlanLint

/-- What was being read when a problem came up. -/
inductive Activity where
  | nextToken
  | simpleKey
  | quotedScalar
  | doubleQuotedScalar
  | blockScalar
  | directive
  | directiveHandle
  | directiveAddress
  | alias
  | anchor
  | tag
  | tagHandle
  | tagAddress
  | tagBrackets
  | node
  | blockNode
  | flowNode
  | blockMapping
  | blockSequence
  | flowMapping
  | flowSequence
  | document
  | mapping
  | orderedMap
  | pairs
  | set
deriving DecidableEq, Repr

/-- The words for an activity. -/
def Activity.text : Activity → String
  | .nextToken => "while scanning for the next token"
  | .simpleKey => "while scanning a simple key"
  | .quotedScalar => "while scanning a quoted scalar"
  | .doubleQuotedScalar => "while scanning a double-quoted scalar"
  | .blockScalar => "while scanning a block scalar"
  | .directive => "while scanning a directive"
  | .directiveHandle => "while scanning an directive"
  | .directiveAddress => "while parsing an directive"
  | .alias => "while scanning an alias"
  | .anchor => "while scanning an anchor"
  | .tag => "while scanning a tag"
  | .tagHandle => "while scanning an tag"
  | .tagAddress => "while parsing an tag"
  | .tagBrackets => "while parsing a tag"
  | .node => "while parsing a node"
  | .blockNode => "while parsing a block node"
  | .flowNode => "while parsing a flow node"
  | .blockMapping => "while parsing a block mapping"
  | .blockSequence => "while parsing a block collection"
  | .flowMapping => "while parsing a flow mapping"
  | .flowSequence => "while parsing a flow sequence"
  | .document => "expected a single document in the stream"
  | .mapping => "while constructing a mapping"
  | .orderedMap => "while constructing an ordered map"
  | .pairs => "while constructing pairs"
  | .set => "while constructing a set"

/-- The three kinds of nodes. -/
inductive NodeKind where
  | scalar
  | sequence
  | mapping
deriving DecidableEq, Repr

/-- The word for a kind of nodes. -/
def NodeKind.text : NodeKind → String
  | .scalar => "scalar"
  | .sequence => "sequence"
  | .mapping => "mapping"

/-- A part of a date or of a time of day. -/
inductive TimePart where
  | year
  | month
  | day
  | hour
  | minute
  | second
deriving DecidableEq, Repr

/-- What is wrong with a part that is out of its range. -/
def TimePart.fault : TimePart → Nat → String
  | .year, n => "year " ++ decimalText n ++ " is out of range"
  | .month, _ => "month must be in 1..12"
  | .day, _ => "day is out of range for month"
  | .hour, _ => "hour must be in 0..23"
  | .minute, _ => "minute must be in 0..59"
  | .second, _ => "second must be in 0..59"

/-- Why a base-64 text stands for no bytes. -/
inductive Base64Fault where
  /-- The characters from the first to the last position, given inclusively, are not ASCII. -/
  | notAscii (c : Char) (first last : Nat)
  | padding
  /-- A last group of a single character; all characters are counted. -/
  | lonelyCharacter (count : Nat)
deriving DecidableEq, Repr

/-- The words for a fault of a base-64 text. -/
def Base64Fault.text : Base64Fault → String
  | .notAscii c first last =>
    "failed to convert base64 data into ascii: 'ascii' codec can't encode " ++
      (if first == last then "character '" ++ escapedCode c.toNat ++ "' in position " ++ decimalText first
        else "characters in position " ++ decimalText first ++ "-" ++ decimalText last) ++
      ": ordinal not in range(128)"
  | .padding => "failed to decode base64 data: Incorrect padding"
  | .lonelyCharacter count =>
    "failed to decode base64 data: Invalid base64-encoded string: number of data characters (" ++
      decimalText count ++ ") cannot be 1 more than a multiple of 4"

/-- The cause of a problem. A character that was found stands for the end of the text if it is the
null character. -/
inductive Reason where
  -- Characters
  | unacceptable (c : Char) (position : Nat)
  | cannotStart (found : Char)
  -- Block structure
  | missingColon
  | valueNotAllowed
  | keyNotAllowed
  | entryNotAllowed
  -- Scalars
  | endInQuotes
  | separatorInQuotes
  | unknownEscape (found : Char)
  | incompleteEscape (digits : Nat) (found : Char)
  | noSuchCharacter
  | badHeader (found : Char)
  | zeroIndentation
  | textBehindHeader (found : Char)
  | deeperBlankLine
  -- Names, tags and directives
  | badName (found : Char)
  | expectedDigit (found : Char)
  | expectedDigitOrDot (found : Char)
  | expectedDigitOrSpace (found : Char)
  | expectedMark (found : Char)
  | expectedSpace (found : Char)
  | expectedAddress (found : Char)
  | incompleteAddressEscape (found : Char)
  | unclosedTag (found : Char)
  | repeatedVersion
  | foreignVersion
  | repeatedHandle (handle : List Char)
  | undefinedHandle (handle : List Char)
  | undefinedAlias (name : List Char)
  -- Structure
  | expectedDocumentStart (found : TokenKind)
  | contentBehindDocument (found : TokenKind)
  | anotherDocument
  | expectedBlockEnd (found : TokenKind)
  | expectedSequenceMark (found : TokenKind)
  | expectedMappingMark (found : TokenKind)
  | expectedContent (found : TokenKind)
  | tooDeep
  -- Values
  | expectedKind (kind found : NodeKind)
  | expectedSequence (found : NodeKind)
  | expectedPair (found : NodeKind)
  | expectedOnePair (count : Nat)
  | expectedMerged (found : NodeKind)
  | expectedMergedOrList (found : NodeKind)
  | unhashableKey
  | repeatedKey (key : String)
  | repeatedEntry (key value original : String)
  | unprintable
  | unknownTag (tag : String)
  | badTimestamp (text : String)
  | badTime (part : TimePart) (number : Nat)
  | badOffset (minutes : Int)
  | badBase64 (fault : Base64Fault)
  | badInteger (base : Nat) (text : List Char)
  | tooManyDigits (count : Nat)
  | badFloat (text : List Char)
  /-- The pieces between the letters that mark an exponent are not two. -/
  | badExponent (pieces : Nat)
deriving DecidableEq, Repr

/-- A character as it is named in a message. -/
def foundText (c : Char) : String := quoted c.toString

/-- A text as it is named in a message. -/
def namedText (text : List Char) : String := quoted (String.ofList text)

/-- The words for a cause. -/
def Reason.text : Reason → String
  | .unacceptable c position =>
    "unacceptable character #x" ++ hexText 4 c.toNat ++ ": special characters are not allowed\n" ++
      "  in \"<file>\", position " ++ decimalText position
  | .cannotStart c => "found character " ++ foundText c ++ " that cannot start any token"
  | .missingColon => "could not find expected ':'"
  | .valueNotAllowed => "mapping values are not allowed here"
  | .keyNotAllowed => "mapping keys are not allowed here"
  | .entryNotAllowed => "sequence entries are not allowed here"
  | .endInQuotes => "found unexpected end of stream"
  | .separatorInQuotes => "found unexpected document separator"
  | .unknownEscape c => "found unknown escape character " ++ foundText c
  | .incompleteEscape digits c =>
    "expected escape sequence of " ++ decimalText digits ++ " hexdecimal numbers, but found " ++ foundText c
  | .noSuchCharacter => "chr() arg not in range(0x110000)"
  | .badHeader c => "expected chomping or indentation indicators, but found " ++ foundText c
  | .zeroIndentation => "expected indentation indicator in the range 1-9, but found 0"
  | .textBehindHeader c => "expected a comment or a line break, but found " ++ foundText c
  | .deeperBlankLine => "more indented follow up line than first in a block scalar"
  | .badName c => "expected alphabetic or numeric character, but found " ++ foundText c
  | .expectedDigit c => "expected a digit, but found " ++ foundText c
  | .expectedDigitOrDot c => "expected a digit or '.', but found " ++ foundText c
  | .expectedDigitOrSpace c => "expected a digit or ' ', but found " ++ foundText c
  | .expectedMark c => "expected '!', but found " ++ foundText c
  | .expectedSpace c => "expected ' ', but found " ++ foundText c
  | .expectedAddress c => "expected URI, but found " ++ foundText c
  | .incompleteAddressEscape c =>
    "expected URI escape sequence of 2 hexdecimal numbers, but found " ++ foundText c
  | .unclosedTag c => "expected '>' but found " ++ foundText c
  | .repeatedVersion => "found duplicate YAML directive"
  | .foreignVersion => "found incompatible YAML document (version 1.* is required)"
  | .repeatedHandle handle => "duplicate tag handle " ++ namedText handle
  | .undefinedHandle handle => "found undefined tag handle " ++ namedText handle
  | .undefinedAlias name => "found undefined alias " ++ namedText name
  | .expectedDocumentStart kind =>
    "expected '<document start>', but found (" ++ quoted kind.name ++ ",)"
  | .contentBehindDocument kind =>
    "found non-comment content after document end marker, (" ++ quoted kind.name ++ ",)"
  | .anotherDocument => "but found another document"
  | .expectedBlockEnd kind => "expected <block end>, but found " ++ quoted kind.name
  | .expectedSequenceMark kind => "expected ',' or ']', but got " ++ quoted kind.name
  | .expectedMappingMark kind => "expected ',' or '\x7d', but got " ++ quoted kind.name
  | .expectedContent kind => "expected the node content, but found " ++ quoted kind.name
  | .tooDeep => "maximum recursion depth exceeded"
  | .expectedKind kind found => "expected a " ++ kind.text ++ " node, but found " ++ found.text
  | .expectedSequence found => "expected a sequence, but found " ++ found.text
  | .expectedPair found => "expected a mapping of length 1, but found " ++ found.text
  | .expectedOnePair count =>
    "expected a single mapping item, but found " ++ decimalText count ++ " items"
  | .expectedMerged found => "expected a mapping for merging, but found " ++ found.text
  | .expectedMergedOrList found =>
    "expected a mapping or list of mappings for merging, but found " ++ found.text
  | .unhashableKey => "found unhashable key"
  | .repeatedKey key => "found duplicate key \"" ++ key ++ "\""
  | .repeatedEntry key value original =>
    "found duplicate key \"" ++ key ++ "\" with value \"" ++ value ++ "\" (original value: \"" ++
      original ++ "\")"
  | .unprintable =>
    "Exceeds the limit (4300 digits) for integer string conversion; " ++
      "use sys.set_int_max_str_digits() to increase the limit"
  | .unknownTag tag => "could not determine a constructor for the tag " ++ quoted tag
  | .badTimestamp text => "failed to construct timestamp from \"" ++ text ++ "\""
  | .badTime part number => part.fault number
  | .badOffset minutes =>
    "offset must be a timedelta strictly between -timedelta(hours=24) and timedelta(hours=24), not " ++
      durationText minutes ++ "."
  | .badBase64 fault => fault.text
  | .badInteger base text =>
    "invalid literal for int() with base " ++ decimalText base ++ ": " ++ namedText text
  | .tooManyDigits count =>
    "Exceeds the limit (4300 digits) for integer string conversion: value has " ++ decimalText count ++
      " digits; use sys.set_int_max_str_digits() to increase the limit"
  | .badFloat text => "could not convert string to float: " ++ namedText text
  | .badExponent pieces =>
    if pieces < 2 then "not enough values to unpack (expected 2, got " ++ decimalText pieces ++ ")"
    else "too many values to unpack (expected 2)"

/-- The advice that is given with a cause. -/
def Reason.advice : Reason → List String
  | .repeatedKey _ => [repetition]
  | .repeatedEntry _ _ _ => [repetition]
  | _ => []
where
  /-- How repeated keys can be allowed. -/
  repetition : String :=
    "\nTo suppress this check see:\n    https://yaml.dev/doc/ruamel.yaml/api/#Duplicate_keys\n"

/-- A problem with a text: its cause and its place and, where known, what was being read and where
that started. -/
structure Problem where
  reason : Reason
  place : Option Mark := none
  activity : Option Activity := none
  started : Option Mark := none
deriving DecidableEq, Repr

/-- The words for a problem, line by line. The start of an activity is left out where the problem
itself has that place. -/
def Problem.lines (p : Problem) : List String :=
  let started := p.started.filter fun mark => p.place.all fun place => !mark.isBeside place
  (p.activity.map Activity.text).toList ++ (started.map Mark.text).toList ++ [p.reason.text] ++
    (p.place.map Mark.text).toList ++ p.reason.advice

/-- The words for a problem. -/
def Problem.message (p : Problem) : String := "\n".intercalate p.lines

/-- The line and the column that a problem is reported at. -/
def Problem.position (p : Problem) : Position :=
  match p.place.or p.started with
  | none => ⟨0, 0⟩
  | some mark => ⟨mark.line, mark.column⟩

/-- A text on which reading breaks off without a report. -/
inductive Breakdown where
  /-- A boolean was asked for, and the text, in small letters, is none. -/
  | unknownBoolean (text : List Char)
  /-- A document is of a version without rules for plain scalars. -/
  | unknownVersion (major minor : Nat)
  /-- A key of an ordered map comes again. -/
  | repeatedPair
  /-- An escaped code needs more than thirty-one bits. -/
  | hugeCode
deriving DecidableEq, Repr

/-- Why a text cannot be read. -/
inductive ReadError where
  | problem (p : Problem)
  | breakdown (b : Breakdown)
deriving DecidableEq, Repr

/-- A problem at a place. -/
def problemAt (mark : Mark) (reason : Reason) : ReadError := .problem { reason, place := some mark }

/-- A problem at a place, met by an activity that started earlier. -/
def problemWhile (activity : Activity) (started mark : Mark) (reason : Reason) : ReadError :=
  .problem { reason, place := some mark, activity := some activity, started := some started }

/-- A problem without a place. -/
def problemOf (reason : Reason) : ReadError := .problem { reason }

end PlanLint
