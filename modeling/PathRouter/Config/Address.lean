import PathRouter.Text.Decimal

/-!
# Socket addresses

An internet address and a port: four decimal bytes with points between them, or, in square brackets,
eight groups of four hexadecimal digits with colons between them. In the second form one run of
groups may be left out between two colons, the last two groups may be four decimal bytes, and a
scope may follow a percent sign. The readers give what follows the part that they read.
-/

namespace PathRouter.Config.Address

/-- Reads a character. -/
def char? (c : Char) : List Char → Option (List Char)
  | d :: cs => if d = c then some cs else none
  | [] => none

/-- Reads a decimal byte without a needless zero. -/
def byte? (cs : List Char) : Option (List Char) :=
  let (ds, rest) := Text.spanDigits cs
  let fits := match ds with
    | [] => false
    | ['0'] => true
    | d :: _ => d != '0' && ds.length ≤ 3
  if fits && Text.ofDigits 10 ds < 256 then some rest else none

/-- Reads four decimal bytes. -/
def bytes? (cs : List Char) : Option (List Char) := do
  let cs ← char? '.' (← byte? cs)
  let cs ← char? '.' (← byte? cs)
  let cs ← char? '.' (← byte? cs)
  byte? cs

/-- Reads a decimal number below `2 ^ bits`. -/
def number? (bits : Nat) (cs : List Char) : Option (List Char) := do
  let (ds, rest) := Text.spanDigits cs
  let n ← Text.natural? ds
  if n < Nat.pow 2 bits then some rest else none

/-- Reads a port behind a colon. -/
def port? (cs : List Char) : Option (List Char) := do
  number? 16 (← char? ':' cs)

/-- Reads a group of one to four hexadecimal digits. -/
def group? (cs : List Char) : Option (List Char) :=
  let ds := cs.takeWhile fun c => (Text.hexValue? c).isSome
  if !ds.isEmpty && ds.length ≤ 4 then some (cs.drop ds.length) else none

/-- Reads as many groups as there are, up to `most`, with colons between them; four decimal bytes
stand for the last two. Gives how many groups are missing, whether decimal bytes were read, and the
rest. -/
def groups (isFirst : Bool) : Nat → List Char → Nat × Bool × List Char
  | 0, cs => (0, false, cs)
  | most + 1, cs =>
    match if isFirst then some cs else char? ':' cs with
    | none => (most + 1, false, cs)
    | some start =>
      match if most = 0 then none else bytes? start with
      | some rest => (most - 1, true, rest)
      | none =>
        match group? start with
        | some rest => groups false most rest
        | none => (most + 1, false, cs)

/-- Reads eight groups, of which a run may be left out. -/
def eightGroups? (cs : List Char) : Option (List Char) :=
  let (missing, hasBytes, rest) := groups true 8 cs
  if missing = 0 then some rest
  else if hasBytes then none
  else do
    let rest ← char? ':' (← char? ':' rest)
    some (groups true (missing - 1) rest).2.2

/-- Reads a scope, if there is one. -/
def scope (cs : List Char) : List Char :=
  match cs with
  | '%' :: rest => (number? 32 rest).getD cs
  | cs => cs

/-- Reads a socket address. -/
def socket? (cs : List Char) : Option (List Char) :=
  match cs with
  | '[' :: cs => do
    let rest ← eightGroups? cs
    port? (← char? ']' (scope rest))
  | cs => do
    port? (← bytes? cs)

/-- Whether a text is a socket address. -/
def isSocket (s : String) : Bool := socket? s.toList == some []

end PathRouter.Config.Address
