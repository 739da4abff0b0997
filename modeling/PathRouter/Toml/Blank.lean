import PathRouter.Text.Decimal

/-!
# Blanks and lines in TOML

Spaces and tabulators stand between the parts of a line, and a line ends with a line feed, which may
follow a carriage return. A comment goes from a number sign to the end of its line; like quoted text
it holds no control character but the tabulator.
-/

namespace PathRouter.Toml

/-- Whether a character is a space or tabulator. -/
def isSpace (c : Char) : Bool := c == ' ' || c == '\t'

/-- Whether a character may stand in a comment or in quoted text. -/
def isPlain (c : Char) : Bool := c == '\t' || (' ' ≤ c && c != '\x7f')

/-- A text without the spaces and tabulators in front. -/
def dropSpaces (cs : List Char) : List Char := cs.dropWhile isSpace

/-- What follows the end of a line. -/
def newline? : List Char → Option (List Char)
  | '\n' :: cs => some cs
  | '\r' :: '\n' :: cs => some cs
  | _ => none

/-- A text without the blanks and ends of lines in front. -/
def dropLines : List Char → List Char
  | '\n' :: cs | '\r' :: '\n' :: cs | ' ' :: cs | '\t' :: cs => dropLines cs
  | cs => cs

/-- A text without the blanks, ends of lines and comments in front; `inComment` tells that it starts
within a comment. -/
def dropGaps (inComment : Bool) : List Char → List Char
  | '\n' :: cs | '\r' :: '\n' :: cs => dropGaps false cs
  | c :: cs =>
    if inComment then if isPlain c then dropGaps true cs else c :: cs
    else if isSpace c then dropGaps false cs
    else if c = '#' then dropGaps true cs
    else c :: cs
  | [] => []

/-- What follows a line after its content: blanks, perhaps a comment, and the end of the line or of
the text. -/
def endLine? (cs : List Char) : Option (List Char) :=
  let rest := match dropSpaces cs with
    | '#' :: cs => cs.dropWhile isPlain
    | cs => cs
  match rest with
  | [] => some []
  | cs => newline? cs

end PathRouter.Toml
