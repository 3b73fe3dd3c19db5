import PlanLint.Url.Host
import PlanLint.Document.Value

/-! Which texts are absolute URLs. -/

namespace PlanLint

/-- How the part behind a scheme is read. -/
inductive SchemeKind where
  /-- The scheme of files, whose host may be left out. -/
  | file
  /-- A scheme with a domain for a host. -/
  | special
  /-- Any other scheme. -/
  | opaqueHost
deriving DecidableEq

/-- The kind of a scheme, given in small letters. -/
def schemeKind (scheme : String) : SchemeKind :=
  if scheme == "file" then .file
  else if ["http", "https", "ws", "wss", "ftp"].contains scheme then .special
  else .opaqueHost

/-- A character that may stand in a scheme behind its first letter. -/
def isSchemeCharacter (c : Char) : Bool := c.isAlphanum || c == '+' || c == '-' || c == '.'

/-- A text as a URL is read from it: without controls and spaces at its ends, and without tabs and
line ends anywhere. -/
def urlCharacters (text : List Char) : List Char :=
  -- Controls and the space, but no other blanks.
  let isOuter := fun c : Char => c.toNat ≤ 0x20
  let trimmed := ((text.dropWhile isOuter).reverse.dropWhile isOuter).reverse
  trimmed.filter fun c => c != '\t' && c != '\n' && c != '\r'

/-- The scheme in small letters, and what stands behind its colon. -/
def splitScheme? (text : List Char) : Option (String × List Char) :=
  let scheme := text.takeWhile isSchemeCharacter
  match scheme, text.drop scheme.length with
  | first :: _, ':' :: rest =>
    -- A scheme starts with a letter.
    if first.isAlpha then some (String.ofList (scheme.map Char.toLower), rest) else none
  | _, _ => none

/-- A slash, in either direction where the scheme allows it. -/
def isSlash (kind : SchemeKind) (c : Char) : Bool := c == '/' || (kind != .opaqueHost && c == '\\')

/-- A character that ends user, host and port. -/
def endsAuthority (kind : SchemeKind) (c : Char) : Bool := isSlash kind c || c == '?' || c == '#'

/-- The host at the start of a text, up to a colon outside brackets. -/
def hostPart (inBrackets : Bool) : List Char → List Char
  | [] => []
  | c :: rest =>
    if c == ':' && !inBrackets then []
    else c :: hostPart (if c == '[' then true else if c == ']' then false else inBrackets) rest

/-- A port is a number of sixteen bits; it may be empty. -/
def isPort (kind : SchemeKind) (port : List Char) : Bool :=
  -- A backward slash ends the port even where it ends nothing else.
  let digits := if kind == .opaqueHost then port.takeWhile (· != '\\') else port
  digits.all isAsciiDigit && ofDigits 10 (digits.filterMap hexValue?) ≤ 65535

/-- User, host and port are well formed. -/
def isAuthority (kind : SchemeKind) (authority : List Char) (endsText : Bool) : Bool :=
  -- The last user mark counts: those before it belong to the user.
  let afterUser := (authority.reverse.takeWhile (· != '@')).reverse
  let user := authority.take (authority.length - afterUser.length - 1)
  let hasUserMark := authority.contains '@'
  -- A user mark with nothing on either side is only accepted at the end of the text.
  if hasUserMark && user.isEmpty && afterUser.isEmpty && !endsText then false
  else
    let host := hostPart false afterUser
    let port := afterUser.drop host.length
    let hasUser := hasUserMark && user != [] && user != [':']
    -- A host may only be empty where its scheme is unknown, and then nothing may stand beside it.
    let hostFits := match kind with
      | .opaqueHost => isOpaqueHost host && (!host.isEmpty || (port.isEmpty && !hasUser))
      | _ => !host.isEmpty && isSpecialHost host
    hostFits && isPort kind (port.drop 1)

/-- The host of a file is a domain, a drive or nothing. -/
def isFileHost (host : List Char) : Bool :=
  match host with
  | [] => true
  -- A letter and a colon or a bar name a drive.
  | [letter, mark] => (letter.isAlpha && (mark == ':' || mark == '|')) || isSpecialHost host
  | _ => isSpecialHost host

/-- What stands behind a scheme's colon is well formed. -/
def isSchemeBody (kind : SchemeKind) (body : List Char) : Bool :=
  match kind with
  | .special =>
    -- Any number of slashes may stand before the host of such a scheme, even none.
    let behind := body.dropWhile (isSlash kind)
    let authority := behind.takeWhile fun c => !endsAuthority kind c
    isAuthority kind authority (authority.length == behind.length)
  | .file =>
    match body with
    | a :: b :: rest =>
      if isSlash kind a && isSlash kind b then isFileHost (rest.takeWhile fun c => !endsAuthority kind c)
      else true
    | _ => true
  | .opaqueHost =>
    match body with
    -- Without two slashes there is no host, and anything may follow.
    | '/' :: '/' :: rest =>
      let authority := rest.takeWhile fun c => !endsAuthority kind c
      isAuthority kind authority (authority.length == rest.length)
    | _ => true

/-- A text is a URL when it has a scheme and what follows fits the scheme. -/
def isUrl (text : List Char) : Bool :=
  match splitScheme? (urlCharacters text) with
  | none => false
  -- Path, query and fragment are not looked at: nothing in them is refused.
  | some (scheme, body) => isSchemeBody (schemeKind scheme) body

/-- A value is a URL when it is a text that is one, blanks at its ends apart. -/
def isValidUrl : Value → Bool
  | .text s => isUrl (trim s.toList)
  | _ => false

end PlanLint
