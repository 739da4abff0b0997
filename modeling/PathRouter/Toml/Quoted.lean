import PathRouter.Text.Reading
import PathRouter.Toml.Blank

/-!
# Quoted text in TOML

A text stands between double or single quotation marks, on one line, or between three of them, on
any number of lines. Between double marks a backslash begins an escape. An end of line right after
three opening marks does not count, up to two marks may stand next to each other within three, and
up to two right before the closing three.
-/

namespace PathRouter.Toml

/-- The character that some hexadecimal digits stand for. -/
def codePoint? (ds : List Char) : Option Char :=
  if ds.all fun c => (Text.hexValue? c).isSome then
    let code := Text.ofDigits 16 ds
    if code.isValidChar then some (Char.ofNat code) else none
  else none

/-- The character that an escape of `count` hexadecimal digits stands for, and what follows. -/
def codeEscape? (count : Nat) (cs : List Char) : Option (Char × List Char) :=
  if count ≤ cs.length then (codePoint? (cs.take count)).map fun c => (c, cs.drop count) else none

/-- The character that an escape stands for, and what follows, read after the backslash. -/
def escape? : List Char → Option (Char × List Char)
  | 'b' :: cs => some ('\x08', cs)
  | 't' :: cs => some ('\t', cs)
  | 'n' :: cs => some ('\n', cs)
  | 'f' :: cs => some ('\x0c', cs)
  | 'r' :: cs => some ('\r', cs)
  | '"' :: cs => some ('"', cs)
  | '\\' :: cs => some ('\\', cs)
  | 'u' :: cs => codeEscape? 4 cs
  | 'U' :: cs => codeEscape? 8 cs
  | _ => none

/-- How a text is quoted: by which mark, and on several lines or on one. -/
structure Quoting where
  mark : Char
  manyLines : Bool

namespace Quoting

/-- Takes the next part of a quoted text; what was read before is kept backwards. -/
def step (q : Quoting) (done : List Char) :
    List Char → Option ((List Char ⊕ String) × List Char)
  | [] => none
  | c :: cs =>
    if c = q.mark then
      if q.manyLines then
        let marks := ((c :: cs).take 5).takeWhile (· == q.mark)
        let rest := (c :: cs).drop marks.length
        if marks.length < 3 then some (.inl (marks ++ done), rest)
        else some (.inr (String.ofList (marks.drop 3 ++ done).reverse), rest)
      else some (.inr (String.ofList done.reverse), cs)
    else if c = '\\' ∧ q.mark = '"' then
      match if q.manyLines then newline? (dropSpaces cs) else none with
      | some rest => some (.inl done, dropLines rest)
      | none => (escape? cs).map fun (e, rest) => (.inl (e :: done), rest)
    else if isPlain c then some (.inl (c :: done), cs)
    else if q.manyLines then (newline? (c :: cs)).map fun rest => (.inl ('\n' :: done), rest)
    else none

/-- The text that is quoted, read after the opening marks. -/
def read? (q : Quoting) (cs : List Char) : Option (String × List Char) := Text.iterate q.step [] cs

end Quoting

/-- A text quoted on one line, read from its opening mark. -/
def lineText? : List Char → Option (String × List Char)
  | '"' :: cs => Quoting.read? ⟨'"', false⟩ cs
  | '\x27' :: cs => Quoting.read? ⟨'\x27', false⟩ cs
  | _ => none

/-- A text quoted in any way, read from its opening mark. -/
def text? : List Char → Option (String × List Char)
  | '"' :: '"' :: '"' :: cs => Quoting.read? ⟨'"', true⟩ ((newline? cs).getD cs)
  | '\x27' :: '\x27' :: '\x27' :: cs => Quoting.read? ⟨'\x27', true⟩ ((newline? cs).getD cs)
  | cs => lineText? cs

end PathRouter.Toml
