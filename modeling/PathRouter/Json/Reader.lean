import PathRouter.Assoc
import PathRouter.Json.Basic

/-!
# Reading JSON

A text is read one character at a time by an automaton with a stack (`State.step`): its mode says
what may come next and the stack holds the lists and records that are open. Reading is therefore a
fold, and what is read after one text and then another is what is read after both.

Blanks are the space, tabulator, line feed and carriage return. A name given twice in a record keeps
its last value. Lists and records nest at most 127 deep, an escaped surrogate has its partner, and a
number lies in the range of binary64.
-/

namespace PathRouter.Json

/-- A list or record that is open, with what was read of it, lists backwards. -/
inductive Frame where
  | list (items : List Json)
  | record (fields : List (String × Json))
  | field (fields : List (String × Json)) (key : String)

/-- What may come next. The characters of a text or number are kept backwards, and `isKey` tells the
name of a field from a text value. -/
inductive Mode where
  | value
  | itemOrEnd
  | keyOrEnd
  | key
  | colon (key : String)
  | after (value : Json)
  | word (rest : List Char) (value : Json)
  | number (cs : List Char)
  | chars (isKey : Bool) (cs : List Char)
  | escape (isKey : Bool) (cs : List Char)
  | unit (isKey : Bool) (cs : List Char) (high : Option Nat) (missing code : Nat)
  | lowEscape (isKey : Bool) (cs : List Char) (high : Nat)
  | lowUnit (isKey : Bool) (cs : List Char) (high : Nat)

/-- The automaton's state. -/
structure State where
  mode : Mode
  stack : List Frame

/-- How many lists and records may be open at once. -/
def maxDepth : Nat := 127

/-- Whether a character may stand between the parts of a document. -/
def isSpace (c : Char) : Bool := c == ' ' || c == '\t' || c == '\n' || c == '\r'

/-- Whether a character can be part of a number. -/
def isNumberChar (c : Char) : Bool :=
  Text.isDigit c || c == '-' || c == '+' || c == '.' || c == 'e' || c == 'E'

/-- The number that a text writes: no sign but a minus, no needless zero in front, digits on both
sides of a point, and a value in the range of binary64. -/
def number? (cs : List Char) : Option Json :=
  let (negative, unsigned) := match cs with
    | '-' :: ds => (true, ds)
    | ds => (false, ds)
  let (whole, rest) := Text.spanDigits unsigned
  let (fraction, power, hasPoint) := match rest with
    | '.' :: ds => ((Text.spanDigits ds).1, (Text.spanDigits ds).2, true)
    | ds => ([], ds, false)
  let wholeFits := match whole with
    | [] => false
    | ['0'] => true
    | c :: _ => c != '0'
  if !wholeFits || (hasPoint && fraction.isEmpty) then none
  else
    match Text.power? power with
    | none => none
    | some p =>
      if (Text.Decimal.ofParts negative whole fraction p).isHuge then none
      else some (.number (String.ofList cs))

namespace State

/-- Opens a list or record. -/
def push (s : State) (mode : Mode) (frame : Frame) : Option State :=
  if s.stack.length < maxDepth then some ⟨mode, frame :: s.stack⟩ else none

/-- Starts a value. -/
def begin (s : State) (c : Char) : Option State :=
  if isSpace c then some s
  else if c = '"' then some { s with mode := .chars false [] }
  else if c = '\x7b' then s.push .keyOrEnd (.record [])
  else if c = '[' then s.push .itemOrEnd (.list [])
  else if c = 't' then some { s with mode := .word ['r', 'u', 'e'] (.flag true) }
  else if c = 'f' then some { s with mode := .word ['a', 'l', 's', 'e'] (.flag false) }
  else if c = 'n' then some { s with mode := .word ['u', 'l', 'l'] .null }
  else if c = '-' ∨ Text.isDigit c then some { s with mode := .number [c] }
  else none

/-- Goes on after a value. -/
def proceed (s : State) (v : Json) (c : Char) : Option State :=
  if isSpace c then some { s with mode := .after v }
  else
    match s.stack with
    | [] => none
    | .list items :: stack =>
      if c = ',' then some ⟨.value, .list (v :: items) :: stack⟩
      else if c = ']' then some ⟨.after (.list (v :: items).reverse), stack⟩
      else none
    | .record _ :: _ => none
    | .field fields key :: stack =>
      if c = ',' then some ⟨.key, .record (Assoc.put key v fields) :: stack⟩
      else if c = '\x7d' then some ⟨.after (.record (Assoc.put key v fields)), stack⟩
      else none

/-- Ends a text, which is the name of a field or a value. -/
def endText (s : State) (isKey : Bool) (cs : List Char) : State :=
  let t := String.ofList cs.reverse
  if isKey then { s with mode := .colon t } else { s with mode := .after (.text t) }

/-- Takes the character that a `\u` escape stands for, or waits for the second half of a pair. -/
def endUnit (s : State) (isKey : Bool) (cs : List Char) (high : Option Nat) (code : Nat) :
    Option State :=
  match high with
  | some h =>
    if 0xDC00 ≤ code ∧ code ≤ 0xDFFF then
      some { s with
        mode := .chars isKey (Char.ofNat (0x10000 + (h - 0xD800) * 0x400 + (code - 0xDC00)) :: cs) }
    else none
  | none =>
    if 0xDC00 ≤ code ∧ code ≤ 0xDFFF then none
    else if 0xD800 ≤ code ∧ code ≤ 0xDBFF then some { s with mode := .lowEscape isKey cs code }
    else some { s with mode := .chars isKey (Char.ofNat code :: cs) }

/-- The character that a one-letter escape stands for. -/
def unescape? (c : Char) : Option Char :=
  if c = '"' ∨ c = '\\' ∨ c = '/' then some c
  else if c = 'b' then some '\x08'
  else if c = 'f' then some '\x0c'
  else if c = 'n' then some '\n'
  else if c = 'r' then some '\r'
  else if c = 't' then some '\t'
  else none

/-- Takes one character. -/
def step (s : State) (c : Char) : Option State :=
  match s.mode with
  | .value => s.begin c
  | .itemOrEnd =>
    if c = ']' then
      match s.stack with
      | .list items :: stack => some ⟨.after (.list items.reverse), stack⟩
      | _ => none
    else s.begin c
  | .keyOrEnd =>
    if isSpace c then some s
    else if c = '"' then some { s with mode := .chars true [] }
    else if c = '\x7d' then
      match s.stack with
      | .record fields :: stack => some ⟨.after (.record fields), stack⟩
      | _ => none
    else none
  | .key =>
    if isSpace c then some s
    else if c = '"' then some { s with mode := .chars true [] }
    else none
  | .colon key =>
    if isSpace c then some s
    else if c = ':' then
      match s.stack with
      | .record fields :: stack => some ⟨.value, .field fields key :: stack⟩
      | _ => none
    else none
  | .after v => s.proceed v c
  | .word [] _ => none
  | .word [d] v => if c = d then some { s with mode := .after v } else none
  | .word (d :: ds) v => if c = d then some { s with mode := .word ds v } else none
  | .number cs =>
    if isNumberChar c then some { s with mode := .number (c :: cs) }
    else (number? cs.reverse).bind fun v => s.proceed v c
  | .chars isKey cs =>
    if c = '"' then some (s.endText isKey cs)
    else if c = '\\' then some { s with mode := .escape isKey cs }
    else if c.toNat < 0x20 then none
    else some { s with mode := .chars isKey (c :: cs) }
  | .escape isKey cs =>
    if c = 'u' then some { s with mode := .unit isKey cs none 4 0 }
    else (unescape? c).map fun d => { s with mode := .chars isKey (d :: cs) }
  | .unit isKey cs high missing code =>
    (Text.hexValue? c).bind fun d =>
      if missing ≤ 1 then s.endUnit isKey cs high (code * 16 + d)
      else some { s with mode := .unit isKey cs high (missing - 1) (code * 16 + d) }
  | .lowEscape isKey cs high =>
    if c = '\\' then some { s with mode := .lowUnit isKey cs high } else none
  | .lowUnit isKey cs high =>
    if c = 'u' then some { s with mode := .unit isKey cs (some high) 4 0 } else none

/-- The value that was read, if the text may end here. -/
def finish? (s : State) : Option Json :=
  match s.stack, s.mode with
  | [], .after v => some v
  | [], .number cs => number? cs.reverse
  | _, _ => none

end State

/-- The value that a text writes. -/
def read? (s : String) : Option Json :=
  (s.toList.foldlM State.step ⟨.value, []⟩).bind State.finish?

end PathRouter.Json
