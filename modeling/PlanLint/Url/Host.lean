import PlanLint.Text.Printable
import PlanLint.Url.Address
import PlanLint.Url.Punycode

/-! Host names: which texts may stand between the slashes and the path of a URL. -/

namespace PlanLint

/-- The bytes of a text in which a percent sign and two hexadecimal digits stand for one byte. -/
def percentDecoded : List UInt8 → List UInt8
  | 0x25 :: a :: b :: rest =>
    match hexValue? (Char.ofNat a.toNat), hexValue? (Char.ofNat b.toNat) with
    | some high, some low => UInt8.ofNat (high * 16 + low) :: percentDecoded rest
    -- A percent sign without two digits stands for itself.
    | _, _ => 0x25 :: percentDecoded (a :: b :: rest)
  | b :: rest => b :: percentDecoded rest
  | [] => []

/-- A text whose bytes are percent-decoded; nothing if they are no text any more. -/
def percentDecodedText? (text : List Char) : Option (List Char) :=
  let bytes := ByteArray.mk (percentDecoded (String.ofList text).toUTF8.toList).toArray
  (String.fromUTF8? bytes).map String.toList

/-- What becomes of a character of a host name. -/
inductive HostCharacter where
  | dropped
  | kept (c : Char)
  | refused
deriving DecidableEq

/-- ASCII characters that no host name may hold. -/
def isForbiddenInDomain (c : Char) : Bool :=
  c.toNat ≤ 0x20 || c.toNat == 0x7F || "%/:<>?@[\\]^|#".toList.contains c

/-- ASCII characters that no host of an unknown scheme may hold. -/
def isForbiddenInOpaqueHost (c : Char) : Bool :=
  "\x00\t\n\r #/:<>?@[\\]^|".toList.contains c

/-- Characters that leave no trace in a name. -/
def isIgnoredInHost (n : Nat) : Bool :=
  [0xAD, 0x34F, 0x180B, 0x180C, 0x180D, 0x180F, 0x200B, 0x2060, 0x2064, 0xFEFF].contains n ||
    (0xFE00 ≤ n && n ≤ 0xFE0F) || (0xE0100 ≤ n && n ≤ 0xE01EF)

/-- Characters with a form of their own that stand for nothing, for several dots, or for forbidden
characters. -/
def isMisleadingInHost (n : Nat) : Bool :=
  [0xA8, 0xAF, 0xB4, 0xB8, 0x37A, 0x384, 0x385, 0x115F, 0x1160, 0x17B4, 0x17B5, 0x1FBD, 0x1FFD, 0x1FFE,
    0x2017, 0x203E, 0x2047, 0x2048, 0x2049, 0x2100, 0x2101, 0x2105, 0x2106, 0x2A74, 0x309B, 0x309C,
    0x3164, 0xFDFA, 0xFDFB, 0xFE12, 0xFE13, 0xFE16, 0xFE19, 0xFE47, 0xFE48, 0xFE52, 0xFE55, 0xFE56,
    0xFE5F, 0xFE64, 0xFE65, 0xFE68, 0xFE6A, 0xFE6B, 0xFE70, 0xFE72, 0xFE74, 0xFE76, 0xFE78, 0xFE7A,
    0xFE7C, 0xFE7E, 0xFFA0, 0xFFE3, 0x1D159, 0x1F100].contains n ||
    (0x2D8 ≤ n && n ≤ 0x2DD) || (0x1FBF ≤ n && n ≤ 0x1FC1) || (0x1FCD ≤ n && n ≤ 0x1FCF) ||
    (0x1FDD ≤ n && n ≤ 0x1FDF) || (0x1FED ≤ n && n ≤ 0x1FEE) || (0x2024 ≤ n && n ≤ 0x2026) ||
    (0x2488 ≤ n && n ≤ 0x249B) || (0x2FF0 ≤ n && n ≤ 0x2FFB) || (0xFC5E ≤ n && n ≤ 0xFC63) ||
    (0xFE49 ≤ n && n ≤ 0xFE4C)

/-- The ASCII character that a letter or digit in another guise stands for: full width, mathematical
alphabets, raised and lowered digits. -/
def plainForm (c : Char) : Char :=
  let n := c.toNat
  if n == 0x3002 || n == 0xFF61 then '.'
  else if 0xFF01 ≤ n && n ≤ 0xFF5E then Char.ofNat (n - 0xFEE0)
  else if 0x1D400 ≤ n && n ≤ 0x1D6A3 then Char.ofNat ('a'.toNat + (n - 0x1D400) % 26)
  else if 0x1D7CE ≤ n && n ≤ 0x1D7FF then Char.ofNat ('0'.toNat + (n - 0x1D7CE) % 10)
  else if 0x2080 ≤ n && n ≤ 0x2089 then Char.ofNat ('0'.toNat + (n - 0x2080))
  else if 0x2074 ≤ n && n ≤ 0x2079 then Char.ofNat ('0'.toNat + (n - 0x2070))
  else if 0x2460 ≤ n && n ≤ 0x2468 then Char.ofNat ('1'.toNat + (n - 0x2460))
  else if 0x24B6 ≤ n && n ≤ 0x24E9 then Char.ofNat ('a'.toNat + (n - 0x24B6) % 26)
  else if n == 0xB9 then '1' else if n == 0xB2 then '2' else if n == 0xB3 then '3'
  else if n == 0x2070 || n == 0x24EA then '0'
  else c

/-- The two characters that join the letters beside them, or keep them apart. -/
def isJoiner (c : Char) : Bool := c.toNat == 0x200C || c.toNat == 0x200D

/-- A character of a host name after mapping: letters become small, other guises plain. -/
def hostCharacter (c : Char) : HostCharacter :=
  if isIgnoredInHost c.toNat then .dropped
  else
    let c := (plainForm c).toLower
    if c.toNat < 0x80 then (if isForbiddenInDomain c then .refused else .kept c)
    -- The two joiners have no form, but names may hold them.
    else if isJoiner c then .kept c
    else if isMisleadingInHost c.toNat || !isPrintable c then .refused
    else .kept c

/-- The mapped characters of a host name, unless one of them is refused. -/
def mappedHost? : List Char → Option (List Char)
  | [] => some []
  | c :: rest =>
    match hostCharacter c with
    | .dropped => mappedHost? rest
    | .kept c => (mappedHost? rest).map (c :: ·)
    | .refused => none

/-- The signs of Indic scripts that silence a vowel. -/
def isVirama (c : Char) : Bool :=
  [0x94D, 0x9CD, 0xA4D, 0xACD, 0xB4D, 0xBCD, 0xC4D, 0xCCD, 0xD3B, 0xD3C, 0xD4D, 0xDCA, 0xE3A, 0xEBA,
    0xF84, 0x1039, 0x103A, 0x1714, 0x1715, 0x1734, 0x17D2, 0x1A60, 0x1B44, 0x1BAA, 0x1BAB, 0x1BF2,
    0x1BF3, 0x2D7F, 0xA806, 0xA82C, 0xA8C4, 0xA953, 0xA9C0, 0xAAF6, 0xABED, 0x10A3F, 0x11046, 0x11070,
    0x1107F, 0x110B9, 0x11133, 0x11134, 0x111C0, 0x11235, 0x112EA, 0x1134D, 0x11442, 0x114C2, 0x115BF,
    0x1163F, 0x116B6, 0x1172B, 0x11839, 0x1193D, 0x1193E, 0x119E0, 0x11A34, 0x11A47, 0x11A99, 0x11C3F,
    0x11D44, 0x11D45, 0x11D97].contains c.toNat

/-- A letter of the script whose letters take the shape that their neighbours ask for. -/
def isArabic (c : Char) : Bool := 0x620 ≤ c.toNat && c.toNat ≤ 0x6FF

/-- Joiners stand where they have an effect: behind a silenced vowel, or between letters that change
their shape. -/
def joinersFit : List Char → Bool
  | a :: j :: rest =>
    -- Between letters that change their shape only the joiner that keeps them apart may stand.
    (!isJoiner j || isVirama a || (j.toNat == 0x200C && isArabic a && rest.head?.any isArabic)) &&
      joinersFit (j :: rest)
  | _ => true

/-- A label whose joiners stand in their places; there is none at its start. -/
def hasFittingJoiners (label : List Char) : Bool := !label.head?.any isJoiner && joinersFit label

/-- A label in ASCII form stands for a label that needs it and holds no mapped characters. -/
def isWellFormedLabel (label : List Char) : Bool :=
  if "xn--".toList.isPrefixOf label then
    match punycodeDecode? (label.drop 4) with
    | none => false
    | some decoded =>
      -- What is in ASCII anyway needs no such form, and what the form stands for is mapped already.
      decoded.any (fun c => c.toNat ≥ 0x80) && (decoded.all fun c => hostCharacter c == .kept c) &&
        hasFittingJoiners decoded
  else hasFittingJoiners label

/-- A domain name, or a dotted address if its last label is a number. -/
def isDomain (host : List Char) : Bool :=
  match (percentDecodedText? host).bind mappedHost? with
  | none => false
  | some name =>
    !name.isEmpty && (piecesBetween '.' name).all isWellFormedLabel &&
      (!endsInNumber name || isDottedAddress name)

/-- A host in brackets is a long address. -/
def isBracketed (host : List Char) : Bool :=
  host.getLast? == some ']' && isLongAddress ((host.drop 1).dropLast)

/-- A host of a scheme whose hosts are domains. -/
def isSpecialHost (host : List Char) : Bool :=
  if host.head? == some '[' then isBracketed host else isDomain host

/-- A host of any other scheme; it may be empty. -/
def isOpaqueHost (host : List Char) : Bool :=
  if host.head? == some '[' then isBracketed host else !host.any isForbiddenInOpaqueHost

end PlanLint
