import PlanLint.Text.Blank

/-! Splitting a text into lines and other pieces. -/

namespace PlanLint

/-- The pieces of a text between the occurrences of a separator; a text without it is one piece. -/
def piecesBetween (separator : Char) : List Char → List (List Char)
  | [] => [[]]
  | c :: rest =>
    if c == separator then [] :: piecesBetween separator rest
    else match piecesBetween separator rest with
      | [] => [[c]]
      | piece :: pieces => (c :: piece) :: pieces

/-- A piece without the carriage returns at its end. -/
def dropReturns (piece : List Char) : List Char :=
  (piece.reverse.dropWhile (· == '\r')).reverse

/-- The lines of a text, whichever way they end. -/
def splitLines (text : List Char) : List Line := (piecesBetween '\n' text).map dropReturns

/-- A text without one newline at its end, if it has one. -/
def withoutLastNewline (text : List Char) : List Char :=
  if text.getLast? == some '\n' then text.dropLast else text

end PlanLint
