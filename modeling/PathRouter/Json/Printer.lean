import PathRouter.Json.Basic

/-!
# Writing JSON

`Json.compact` writes a value without blanks, `Json.pretty` with one item or field a line and two
spaces of indentation a level. In texts the quote, the backslash and the characters below the space
are escaped; every other character stands for itself.
-/

namespace PathRouter.Json

/-- One of the sixteen digits. -/
def hexDigit (n : Nat) : Char :=
  if n < 10 then Char.ofNat ('0'.toNat + n) else Char.ofNat ('a'.toNat + (n - 10))

/-- A character as it stands in a quoted text. -/
def escaped (c : Char) : List Char :=
  if c = '"' then ['\\', '"']
  else if c = '\\' then ['\\', '\\']
  else if c = '\x08' then ['\\', 'b']
  else if c = '\x0c' then ['\\', 'f']
  else if c = '\n' then ['\\', 'n']
  else if c = '\r' then ['\\', 'r']
  else if c = '\t' then ['\\', 't']
  else if c.toNat < 0x20 then
    ['\\', 'u', '0', '0', hexDigit (c.toNat / 16), hexDigit (c.toNat % 16)]
  else [c]

/-- A text between quotes. -/
def quoted (s : String) : List Char := '"' :: s.toList.flatMap escaped ++ ['"']

mutual

/-- The characters of a value without blanks. -/
def compactChars : Json → List Char
  | null => "null".toList
  | flag true => "true".toList
  | flag false => "false".toList
  | number written => written.toList
  | text s => quoted s
  | list [] => ['[', ']']
  | list (v :: vs) => '[' :: compactChars v ++ compactItems vs
  | record [] => ['\x7b', '\x7d']
  | record ((k, v) :: fields) =>
    '\x7b' :: quoted k ++ ':' :: compactChars v ++ compactFields fields

/-- The items after the first, each behind a comma, and the end of the list. -/
def compactItems : List Json → List Char
  | [] => [']']
  | v :: vs => ',' :: compactChars v ++ compactItems vs

/-- The fields after the first, each behind a comma, and the end of the record. -/
def compactFields : List (String × Json) → List Char
  | [] => ['\x7d']
  | (k, v) :: fields => ',' :: quoted k ++ ':' :: compactChars v ++ compactFields fields

end

/-- A line break and the indentation of a level. -/
def lineAt (level : Nat) : List Char := '\n' :: List.replicate (2 * level) ' '

mutual

/-- The characters of a value at a level of indentation, one item or field a line. -/
def prettyChars (level : Nat) : Json → List Char
  | null => "null".toList
  | flag true => "true".toList
  | flag false => "false".toList
  | number written => written.toList
  | text s => quoted s
  | list [] => ['[', ']']
  | list (v :: vs) =>
    '[' :: lineAt (level + 1) ++ prettyChars (level + 1) v ++ prettyItems level vs
  | record [] => ['\x7b', '\x7d']
  | record ((k, v) :: fields) =>
    '\x7b' :: lineAt (level + 1) ++ quoted k ++ ':' :: ' ' :: prettyChars (level + 1) v ++
      prettyFields level fields

/-- The items after the first and the end of a list. -/
def prettyItems (level : Nat) : List Json → List Char
  | [] => lineAt level ++ [']']
  | v :: vs => ',' :: lineAt (level + 1) ++ prettyChars (level + 1) v ++ prettyItems level vs

/-- The fields after the first and the end of a record. -/
def prettyFields (level : Nat) : List (String × Json) → List Char
  | [] => lineAt level ++ ['\x7d']
  | (k, v) :: fields =>
    ',' :: lineAt (level + 1) ++ quoted k ++ ':' :: ' ' :: prettyChars (level + 1) v ++
      prettyFields level fields

end

/-- A value written without blanks. -/
def compact (v : Json) : String := String.ofList (compactChars v)

/-- A value written with line breaks and indentation. -/
def pretty (v : Json) : String := String.ofList (prettyChars 0 v)

end PathRouter.Json
