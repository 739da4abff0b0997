import PathRouter.Json.Basic

/-!
# Numbers in TOML

Whole numbers of 64 bits with a sign, decimal or after `0x`, `0o` or `0b`, and binary64 numbers,
among them `inf` and `nan`. An underscore may stand between two digits, and a decimal number does
not begin with a needless zero. A number beyond the largest binary64 number is refused.
-/

namespace PathRouter.Toml

/-- The digits at the front of a text, without the underscores between them, and what follows;
digits were read before. -/
def moreDigits (isOk : Char → Bool) : List Char → List Char × List Char
  | '_' :: c :: cs =>
    if isOk c then
      let (ds, rest) := moreDigits isOk cs
      (c :: ds, rest)
    else ([], '_' :: c :: cs)
  | c :: cs =>
    if isOk c then
      let (ds, rest) := moreDigits isOk cs
      (c :: ds, rest)
    else ([], c :: cs)
  | [] => ([], [])

/-- One or more digits, without the underscores between them, and what follows. -/
def digits? (isOk : Char → Bool) : List Char → Option (List Char × List Char)
  | c :: cs =>
    if isOk c then
      let (ds, rest) := moreDigits isOk cs
      some (c :: ds, rest)
    else none
  | [] => none

/-- The digits of a decimal number without a needless zero, and what follows. -/
def wholePart? : List Char → Option (List Char × List Char)
  | '0' :: cs => some (['0'], cs)
  | cs => digits? Text.isDigit cs

/-- Takes a sign off a text and tells whether it is a minus. -/
def sign (cs : List Char) : Bool × List Char :=
  match cs with
  | '-' :: cs => (true, cs)
  | '+' :: cs => (false, cs)
  | cs => (false, cs)

/-- A whole number as a value, if it is in range. -/
def whole? (negative : Bool) (n : Nat) : Option Json :=
  if negative then
    if n ≤ Nat.pow 2 63 then some (.number (toString (-(n : Int)))) else none
  else if n < Nat.pow 2 63 then some (.ofNat n) else none

/-- A whole number in another base than ten. -/
def based? (base : Nat) (cs : List Char) : Option (Json × List Char) := do
  let (ds, rest) ← digits? (fun c => (Text.hexValue? c).any (· < base)) cs
  let v ← whole? false (Text.ofDigits base ds)
  some (v, rest)

/-- A power of ten behind the letter `e`: its sign, its digits, and what follows. -/
def power? : List Char → Option ((Bool × List Char) × List Char)
  | c :: cs =>
    if c = 'e' ∨ c = 'E' then
      (digits? Text.isDigit (sign cs).2).map fun (ds, rest) => (((sign cs).1, ds), rest)
    else none
  | [] => none

/-- The fraction behind a point. -/
def fraction? : List Char → Option (List Char × List Char)
  | '.' :: cs => digits? Text.isDigit cs
  | _ => none

/-- A binary64 number as a value, if it is in range. -/
def float? (negative : Bool) (whole fraction : List Char) (power : Bool × List Char) :
    Option Json :=
  let n : Int := Text.ofDigits 10 power.2
  let d := Text.Decimal.ofParts negative whole fraction (if power.1 then -n else n)
  if d.isHuge && !negative then none
  else
    let mark (isThere : Bool) (c : Char) : List Char := if isThere then [c] else []
    some (.number (String.ofList (mark negative '-' ++ whole ++ '.' :: fraction ++ 'e' ::
      mark power.1 '-' ++ power.2)))

/-- A decimal number after its sign. -/
def decimal? (negative : Bool) (cs : List Char) : Option (Json × List Char) := do
  let (whole, rest) ← wholePart? cs
  match fraction? rest with
  | some (fraction, rest) =>
    let (power, rest) := (power? rest).getD ((false, ['0']), rest)
    let v ← float? negative whole fraction power
    some (v, rest)
  | none =>
    match power? rest with
    | some (power, rest) =>
      let v ← float? negative whole ['0'] power
      some (v, rest)
    | none =>
      let v ← whole? negative (Text.ofDigits 10 whole)
      some (v, rest)

/-- A number and what follows. -/
def number? (cs : List Char) : Option (Json × List Char) :=
  match cs with
  | '0' :: 'x' :: cs => based? 16 cs
  | '0' :: 'o' :: cs => based? 8 cs
  | '0' :: 'b' :: cs => based? 2 cs
  | cs =>
    match sign cs with
    | (_, 'i' :: 'n' :: 'f' :: rest) => some (.number "inf", rest)
    | (_, 'n' :: 'a' :: 'n' :: rest) => some (.number "nan", rest)
    | (negative, cs) => decimal? negative cs

end PathRouter.Toml
