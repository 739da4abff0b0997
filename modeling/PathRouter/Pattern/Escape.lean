import PathRouter.Pattern.Basic
import PathRouter.Text.Property

/-!
# Escapes in patterns

What a backslash and the characters after it stand for: one character, a set of characters, or a
condition on a position. `Flags` are the settings that a pattern can switch on and off; with
`verbose` set, blanks and comments between the parts of a pattern are skipped.
-/

namespace PathRouter.Pattern

/-- The settings in force at a place of a pattern. -/
structure Flags where
  ignoreCase : Bool := false
  multiLine : Bool := false
  dotAll : Bool := false
  swapGreed : Bool := false
  unicode : Bool := true
  crlf : Bool := false
  verbose : Bool := false
deriving DecidableEq, Repr

/-- A text without the blanks and comments at its start. A comment begins with `#` and ends with its
line. -/
def dropBlanks (inComment : Bool) : List Char → List Char
  | [] => []
  | c :: cs =>
    if inComment then dropBlanks (c != '\n') cs
    else if Text.isBlank c then dropBlanks false cs
    else if c = '#' then dropBlanks true cs
    else c :: cs

/-- Moves on to what counts next. -/
def skip (f : Flags) (cs : List Char) : List Char :=
  if f.verbose then dropBlanks false cs else cs

/-- What an escape stands for. A character that is given as one byte is marked, since without the
Unicode setting it must be one of ASCII. -/
inductive Atom where
  | char (c : Char) (isByte : Bool)
  | set (s : CharSet)
  | look (condition : LookAround)

/-- The character with a code, unless the code is a surrogate or too large. -/
def scalar? (n : Nat) : Option Char :=
  if n < 0xD800 ∨ (0xDFFF < n ∧ n < 0x110000) then some (Char.ofNat n) else none

/-- A number of so many hexadecimal digits. -/
def hexFixed? (f : Flags) : Nat → Nat → List Char → Option (Nat × List Char)
  | 0, code, cs => some (code, cs)
  | _ + 1, _, [] => none
  | n + 1, code, c :: cs => do
    let d ← Text.hexValue? c
    hexFixed? f n (code * 16 + d) (skip f cs)

/-- The text up to a closing brace and the rest after it. -/
def braced? (f : Flags) (cs : List Char) : Option (List Char × List Char) :=
  match cs.dropWhile (· != '\x7d') with
  | [] => none
  | _ :: rest =>
    let body := cs.takeWhile (· != '\x7d')
    some (if f.verbose then body.filter fun c => !Text.isBlank c else body, rest)

/-- A character by its code: digits in braces, or two, four or eight of them after the letters `x`,
`u` and `U`. -/
def hexEscape? (f : Flags) (letter : Char) (cs : List Char) : Option (Atom × List Char) :=
  match skip f cs with
  | [] => none
  | '\x7b' :: cs => do
    let (body, rest) ← braced? f cs
    if body.isEmpty || body.any (fun c => (Text.hexValue? c).isNone) then none
    else
      let c ← scalar? (Text.ofDigits 16 body)
      some (.char c false, skip f rest)
  | cs => do
    let (code, rest) ← hexFixed? f (if letter = 'x' then 2 else if letter = 'u' then 4 else 8) 0 cs
    let c ← scalar? code
    some (.char c (letter = 'x'), rest)

/-- A set by the name of a property, negated for the letter `P`. -/
def propertyEscape? (f : Flags) (letter : Char) (cs : List Char) : Option (Atom × List Char) := do
  let (name, rest) ← match skip f cs with
    | [] => none
    | '\x7b' :: cs => braced? f cs
    | '\\' :: _ => none
    | c :: cs => some ([c], skip f cs)
  if !f.unicode then none
  else
    let s ← Text.property? (String.ofList name)
    some (.set (if letter = 'P' then CharSet.compl s else s), rest)

/-- Whether a letter can stand in the name of a word edge. -/
def isEdgeChar (c : Char) : Bool := c.isAlpha || c == '-'

/-- The edge of a word that the name in braces after `\b` asks for. Braces with another content are
not part of the escape; if a name is begun it must be one of the four. -/
def wordEdge? (f : Flags) (cs : List Char) : Option (WordEdge × List Char) :=
  match cs with
  | '\x7b' :: inner =>
    match skip f inner with
    | [] => none
    | c :: _ =>
      if !isEdgeChar c then some (.any, cs)
      else do
        let (name, rest) ← braced? f inner
        let edge ← [("start", WordEdge.start), ("end", .stop), ("start-half", .startHalf),
          ("end-half", .stopHalf)].lookup (String.ofList name)
        some (edge, rest)
  | _ => some (.any, cs)

/-- Whether a character has a meaning of its own in patterns. -/
def isMeta (c : Char) : Bool :=
  ['\\', '.', '+', '*', '?', '(', ')', '|', '[', ']', '\x7b', '\x7d', '^', '$', '#', '&', '-',
    '~'].contains c

/-- Whether a backslash before a character only takes away its meaning: true of ASCII without its
letters, its digits and the angle brackets. -/
def isEscapable (c : Char) : Bool :=
  isMeta c || (c.toNat < 128 && !c.isAlphanum && c != '<' && c != '>')

/-- The character that a letter after a backslash stands for. -/
def control? (letter : Char) : Option Char :=
  [('a', '\x07'), ('f', '\x0c'), ('t', '\t'), ('n', '\n'), ('r', '\r'), ('v', '\x0b')].lookup letter

/-- Reads what follows a backslash. -/
def escape? (f : Flags) : List Char → Option (Atom × List Char)
  | [] => none
  | c :: cs =>
    if c = 'x' ∨ c = 'u' ∨ c = 'U' then hexEscape? f c cs
    else if c = 'p' ∨ c = 'P' then propertyEscape? f c cs
    else if isEscapable c then some (.char c false, cs)
    else if c = 'A' then some (.look .textStart, cs)
    else if c = 'z' then some (.look .textEnd, cs)
    else if c = 'b' then
      (wordEdge? f cs).map fun (edge, rest) => (.look (.word edge f.unicode), rest)
    else if c = 'B' then some (.look (.word .no f.unicode), cs)
    else if c = '<' then some (.look (.word .start f.unicode), cs)
    else if c = '>' then some (.look (.word .stop f.unicode), cs)
    else
      match CharSet.shorthand? f.unicode c, control? c with
      | some s, _ => some (.set s, cs)
      | none, some d => some (.char d false, cs)
      | none, none => none

end PathRouter.Pattern
