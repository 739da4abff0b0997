/-!
# Command line arguments

Arguments are options, which have a name and perhaps a letter, and values in positions. An option
that takes a value has it attached, behind an equals sign or the letter, or as the next argument,
which then does not look like an option; no option comes twice. Behind `--` everything is a value.
`-h` and `--help` ask for help.
-/

namespace PathRouter.Tool

/-- An option of a command. -/
structure OptionSpec where
  name : String
  letter : Option Char := none
  takesValue : Bool := true
  allowsEmpty : Bool := false

/-- Why a command is not run: its arguments are wrong, or help is asked for. -/
inductive Stop where
  | usage
  | help
deriving DecidableEq, Repr

/-- What some arguments give: the values of options by name, with the empty text for options that
take none, and the values in positions. -/
structure Arguments where
  options : List (String × String) := []
  values : List String := []
deriving DecidableEq, Repr

namespace Arguments

/-- The value of an option. -/
def option? (a : Arguments) (name : String) : Option String := a.options.lookup name

/-- Whether an option is given. -/
def has (a : Arguments) (name : String) : Bool := (a.option? name).isSome

/-- The arguments with one more option, which must be new, and not empty unless that is allowed. -/
def addOption (a : Arguments) (o : OptionSpec) (value : String) : Except Stop Arguments :=
  if a.has o.name || (o.takesValue && !o.allowsEmpty && value.isEmpty) then .error .usage
  else .ok { a with options := a.options ++ [(o.name, value)] }

/-- The arguments with more values. -/
def addValues (a : Arguments) (values : List String) : Arguments :=
  { a with values := a.values ++ values }

/-- Reads an option by its name, perhaps with its value. Gives the option that waits for its value,
if one does. -/
def readNamed (specs : List OptionSpec) (a : Arguments) (cs : List Char) :
    Except Stop (Arguments × Option OptionSpec) :=
  let name := String.ofList (cs.takeWhile (· != '='))
  let attached := match cs.dropWhile (· != '=') with
    | [] => none
    | _ :: value => some (String.ofList value)
  match specs.find? (·.name == name), attached with
  | some o, some value =>
    if o.takesValue then (a.addOption o value).map fun a => (a, none) else .error .usage
  | some o, none =>
    if o.takesValue then .ok (a, some o) else (a.addOption o "").map fun a => (a, none)
  | none, none => if name = "help" then .error .help else .error .usage
  | none, some _ => .error .usage

/-- Reads options by their letters, the last one perhaps with its value. -/
def readLetters (specs : List OptionSpec) (a : Arguments) :
    List Char → Except Stop (Arguments × Option OptionSpec)
  | [] => .ok (a, none)
  | c :: cs =>
    match specs.find? (·.letter == some c) with
    | some o =>
      if o.takesValue then
        match cs with
        | [] => .ok (a, some o)
        | '=' :: value => (a.addOption o (String.ofList value)).map fun a => (a, none)
        | value => (a.addOption o (String.ofList value)).map fun a => (a, none)
      else do
        let a ← a.addOption o ""
        readLetters specs a cs
    | none => if c = 'h' then .error .help else .error .usage

/-- Reads arguments after those in `a`, the last of which may be an option that waits for its value.
-/
def readFrom (specs : List OptionSpec) (a : Arguments) (waiting : Option OptionSpec) :
    List String → Except Stop Arguments
  | [] => if waiting.isSome then .error .usage else .ok a
  | arg :: args =>
    match waiting, arg.toList with
    | none, ['-', '-'] => .ok (a.addValues args)
    | none, '-' :: '-' :: cs => do
      let (a, waiting) ← readNamed specs a cs
      readFrom specs a waiting args
    | none, '-' :: c :: cs => do
      let (a, waiting) ← readLetters specs a (c :: cs)
      readFrom specs a waiting args
    | none, _ => readFrom specs (a.addValues [arg]) none args
    | some _, '-' :: _ :: _ => .error .usage
    | some o, _ => do
      let a ← a.addOption o arg
      readFrom specs a none args

/-- Reads arguments. -/
def read (specs : List OptionSpec) (args : List String) : Except Stop Arguments :=
  readFrom specs {} none args

end Arguments

end PathRouter.Tool
