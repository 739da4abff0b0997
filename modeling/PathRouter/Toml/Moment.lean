import PathRouter.Json.Basic

/-!
# Dates and times in TOML

A date of the Gregorian calendar, a time of day with nanoseconds, or both, and then perhaps a
distance from universal time. A moment becomes a record with one field that holds its normal form: a
`T` between date and time, no needless zeros behind the seconds, and `Z` for the letter in either
case.
-/

namespace PathRouter.Toml

/-- A number of `count` digits between two bounds, and what follows. -/
def fixed? (count least most : Nat) (cs : List Char) : Option (Nat × List Char) := do
  let ds := cs.take count
  let n ← Text.natural? ds
  if ds.length = count ∧ least ≤ n ∧ n ≤ most then some (n, cs.drop count) else none

/-- What follows a character. -/
def after? (c : Char) : List Char → Option (List Char)
  | d :: cs => if d = c then some cs else none
  | [] => none

/-- How many days a month has. -/
def daysIn (year month : Nat) : Nat :=
  if month = 2 then
    if year % 4 = 0 ∧ (year % 100 ≠ 0 ∨ year % 400 = 0) then 29 else 28
  else if month = 4 ∨ month = 6 ∨ month = 9 ∨ month = 11 then 30
  else 31

/-- A number written with at least `width` digits. -/
def padded (width n : Nat) : List Char :=
  let ds := (Text.digits n).toList
  List.replicate (width - ds.length) '0' ++ ds

/-- A date in its normal form, and what follows. -/
def date? (cs : List Char) : Option (List Char × List Char) := do
  let (year, cs) ← fixed? 4 0 9999 cs
  let (month, cs) ← fixed? 2 1 12 (← after? '-' cs)
  let (day, cs) ← fixed? 2 1 (daysIn year month) (← after? '-' cs)
  some (padded 4 year ++ '-' :: padded 2 month ++ '-' :: padded 2 day, cs)

/-- A text without the zeros at its end. -/
def dropEndZeros (ds : List Char) : List Char := (ds.reverse.dropWhile (· == '0')).reverse

/-- The fraction of a second in its normal form, and what follows. -/
def secondsFraction (cs : List Char) : List Char × List Char :=
  match cs with
  | '.' :: rest =>
    match Text.spanDigits rest with
    | ([], _) => ([], cs)
    | (ds, rest) =>
      match dropEndZeros (ds.take 9) with
      | [] => ([], rest)
      | ds => ('.' :: ds, rest)
  | cs => ([], cs)

/-- A time of day in its normal form, and what follows. -/
def time? (cs : List Char) : Option (List Char × List Char) := do
  let (hour, cs) ← fixed? 2 0 23 cs
  let (minute, cs) ← fixed? 2 0 59 (← after? ':' cs)
  let (second, cs) ← fixed? 2 0 60 (← after? ':' cs)
  let (fraction, cs) := secondsFraction cs
  some (padded 2 hour ++ ':' :: padded 2 minute ++ ':' :: padded 2 second ++ fraction, cs)

/-- A distance from universal time in its normal form, and what follows. -/
def offset? : List Char → Option (List Char × List Char)
  | [] => none
  | c :: cs =>
    if c = 'Z' ∨ c = 'z' then some (['Z'], cs)
    else if c = '+' ∨ c = '-' then do
      let (hour, cs) ← fixed? 2 0 23 cs
      let (minute, cs) ← fixed? 2 0 59 (← after? ':' cs)
      let c := if hour = 0 ∧ minute = 0 then '+' else c
      some (c :: padded 2 hour ++ ':' :: padded 2 minute, cs)
    else none

/-- A time of day behind a date, with a distance from universal time if there is one. -/
def timeAfterDate? : List Char → Option (List Char × List Char)
  | [] => none
  | c :: cs =>
    if c = 'T' ∨ c = 't' ∨ c = ' ' then do
      let (time, cs) ← time? cs
      let (offset, cs) := (offset? cs).getD ([], cs)
      some ('T' :: time ++ offset, cs)
    else none

/-- The name of the field that holds a moment. -/
def momentKey : String := "$__toml_private_datetime"

/-- A date, a time, or both, and what follows. -/
def moment? (cs : List Char) : Option (Json × List Char) :=
  let read := match date? cs with
    | some (date, rest) =>
      let (time, rest) := (timeAfterDate? rest).getD ([], rest)
      some (date ++ time, rest)
    | none => time? cs
  read.map fun (written, rest) => (.record [(momentKey, .text (String.ofList written))], rest)

end PathRouter.Toml
