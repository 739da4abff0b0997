import PathRouter.Text.CaseFold
import PathRouter.Text.Category

/-!
# Sets of characters

A set is its membership test. `CharSet.folded` closes a set under equality up to case; the named
sets are those that patterns can name: digits, blanks and words of all scripts or of ASCII, and the
classes of POSIX.
-/

namespace PathRouter

/-- A set of characters, as a test. -/
abbrev CharSet := Char → Bool

namespace CharSet

/-- No character. -/
def empty : CharSet := fun _ => false

/-- All characters. -/
def all : CharSet := fun _ => true

/-- One character. -/
def single (a : Char) : CharSet := fun c => c == a

/-- The characters from one to another, both included. -/
def range (first last : Char) : CharSet := fun c => first ≤ c && c ≤ last

/-- The characters of a text. -/
def ofText (s : String) : CharSet := fun c => s.toList.contains c

/-- The characters of either set. -/
def union (s t : CharSet) : CharSet := fun c => s c || t c

/-- The characters of both sets. -/
def inter (s t : CharSet) : CharSet := fun c => s c && t c

/-- The characters of the first set that are not in the second. -/
def diff (s t : CharSet) : CharSet := fun c => s c && !t c

/-- The characters of exactly one set. -/
def symmDiff (s t : CharSet) : CharSet := fun c => s c != t c

/-- The characters that are not in a set. -/
def compl (s : CharSet) : CharSet := fun c => !s c

/-- The characters that are equal to one of a set up to case. -/
def folded (s : CharSet) : CharSet := fun c => (Text.orbit c).any s

/-- The characters that are equal to one of a set up to the case of the letters `A` to `Z`. -/
def asciiFolded (s : CharSet) : CharSet := fun c =>
  s c || (('A' ≤ c && c ≤ 'Z') && s (Char.ofNat (c.toNat + 32))) ||
    (('a' ≤ c && c ≤ 'z') && s (Char.ofNat (c.toNat - 32)))

/-- The ASCII letters, digits and the underscore. -/
def asciiWord : CharSet :=
  ((range '0' '9').union (range 'A' 'Z')).union ((range 'a' 'z').union (single '_'))

/-- The blanks of ASCII. -/
def asciiSpace : CharSet := (range '\t' '\x0d').union (single ' ')

/-- The set that a letter after a backslash names: digits, blanks or words, of all scripts or of
ASCII; a capital names the complement. -/
def shorthand? (unicode : Bool) (letter : Char) : Option CharSet :=
  if letter = 'd' then some (if unicode then Text.isDecimalDigit else range '0' '9')
  else if letter = 's' then some (if unicode then Text.isBlank else asciiSpace)
  else if letter = 'w' then some (if unicode then Text.isWord else asciiWord)
  else if letter = 'D' then some (compl (if unicode then Text.isDecimalDigit else range '0' '9'))
  else if letter = 'S' then some (compl (if unicode then Text.isBlank else asciiSpace))
  else if letter = 'W' then some (compl (if unicode then Text.isWord else asciiWord))
  else none

/-- The ASCII classes of POSIX by their names. -/
def posix? (name : String) : Option CharSet :=
  let lower := range 'a' 'z'
  let upper := range 'A' 'Z'
  let digit := range '0' '9'
  let alpha := upper.union lower
  if name = "alnum" then some (digit.union alpha)
  else if name = "alpha" then some alpha
  else if name = "ascii" then some (range '\x00' '\x7f')
  else if name = "blank" then some (ofText "\t ")
  else if name = "cntrl" then some ((range '\x00' '\x1f').union (single '\x7f'))
  else if name = "digit" then some digit
  else if name = "graph" then some (range '!' '~')
  else if name = "lower" then some lower
  else if name = "print" then some (range ' ' '~')
  else if name = "punct" then some ((range '!' '~').diff (digit.union alpha))
  else if name = "space" then some asciiSpace
  else if name = "upper" then some upper
  else if name = "word" then some asciiWord
  else if name = "xdigit" then some (digit.union ((range 'A' 'F').union (range 'a' 'f')))
  else none

/-- Whether a set holds none of the 128 code points after ASCII. -/
def isAscii (s : CharSet) : Bool :=
  (List.range 128).all fun n => !s (Char.ofNat (n + 128))

end CharSet

end PathRouter
