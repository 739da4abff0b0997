import PathRouter.Startup
import PathRouter.Server.Response
import PathRouter.Tool.Arguments

/-!
# The route tool

The tool compiles a configuration into a cache, resolves paths with a configuration or a cache, and
lists what is in a cache. Every command reads one file (`Command.source`) and then gives a text to
print and perhaps a file to write (`Command.run`).
-/

namespace PathRouter.Tool

/-- A command of the tool. -/
inductive Command where
  | compile (config : String) (out : Option String)
  | resolveConfig (config : String) (paths : List String)
  | resolveCache (cache : String) (baseUrl : Option String) (paths : List String)
  | inspect (cache : String)
deriving DecidableEq, Repr

/-- What a command does: it prints a text and perhaps replaces a file. -/
structure Effect where
  output : String
  replaced : Option (String × String) := none
deriving DecidableEq, Repr

/-- Why a command fails. -/
inductive ToolError where
  | config (cause : ConfigError)
  | compile (cause : CompileError)
  | cacheMissing (path : String)
  | cacheFile (cause : FileError)
  | cache (cause : CacheError)
  | unset (slot : Slot)
  | noOutput
  | write (cause : FileError)
deriving DecidableEq, Repr

/-- The wording of an error. -/
def ToolError.message : ToolError → String
  | config cause => cause.message
  | compile cause => cause.message
  | cacheMissing path => s!"cache file {path} not found"
  | cacheFile cause | write cause => cause.word
  | cache cause => cause.message
  | unset slot => slot.message
  | noOutput => "no --out given and router.cache_path is not set"

namespace Command

/-- The options of the commands. -/
def configOption : OptionSpec := { name := "config", letter := some 'c' }

/-- The option for the file that a cache is written to. -/
def outOption : OptionSpec := { name := "out", letter := some 'o' }

/-- The option for the file that a cache is read from. -/
def cacheOption : OptionSpec := { name := "cache" }

/-- The option for the base URL of paths that are resolved with a cache. -/
def baseUrlOption : OptionSpec := { name := "base-url", allowsEmpty := true }

/-- Reads the arguments of `compile`. -/
def readCompile (args : List String) : Except Stop Command := do
  let a ← Arguments.read [configOption, outOption] args
  match a.option? "config", a.values with
  | some config, [] => .ok (.compile config (a.option? "out"))
  | _, _ => .error .usage

/-- Reads the arguments of `resolve`: either a configuration or a cache, and one path or more. -/
def readResolve (args : List String) : Except Stop Command := do
  let a ← Arguments.read [configOption, cacheOption, baseUrlOption] args
  match a.option? "config", a.option? "cache", a.values with
  | _, _, [] => .error .usage
  | some config, none, paths => .ok (.resolveConfig config paths)
  | none, some cache, paths => .ok (.resolveCache cache (a.option? "base-url") paths)
  | _, _, _ => .error .usage

/-- Reads the arguments of `inspect`. -/
def readInspect (args : List String) : Except Stop Command := do
  let a ← Arguments.read [cacheOption] args
  match a.option? "cache", a.values with
  | some cache, [] => .ok (.inspect cache)
  | _, _ => .error .usage

/-- Reads the arguments of the tool. -/
def read : List String → Except Stop Command
  | [] => .error .usage
  | name :: args =>
    if name = "compile" then readCompile args
    else if name = "resolve" then readResolve args
    else if name = "inspect" then readInspect args
    else if name = "help" ∨ name = "--help" ∨ name.startsWith "-h" then .error .help
    else .error .usage

/-- The file that a command reads. -/
def source : Command → String
  | .compile config _ | .resolveConfig config _ => config
  | .resolveCache cache _ _ | .inspect cache => cache

/-- The configuration in a file that was read. -/
def configOf (content : Except FileError String) : Except ToolError Config :=
  match content with
  | .ok s => (Config.ofText s).mapError .config
  | .error e => .error (.config (.file e))

/-- The table in a cache that was read. -/
def tableOf (path : String) (baseUrl : Option String) (content : Except FileError String) :
    Except ToolError Table :=
  match content with
  | .ok s => (Table.imported { baseUrl } s).mapError .cache
  | .error .notFound => .error (.cacheMissing path)
  | .error e => .error (.cacheFile e)

/-- The description of a path that was resolved. -/
def describe (path : String) (m : RouteMatch) : Json :=
  .record [("callback", .text m.route.callback.text), ("outcome", .text m.outcome.word),
    ("params", Response.paramsJson m), ("path", .text path), ("route", .text m.route.template)]

/-- The text for some paths that are resolved. -/
def resolved (t : Table) (paths : List String) : Except ToolError Effect := do
  let items ← paths.mapM fun p => ((t.resolve p).map (describe p)).mapError ToolError.unset
  .ok { output := (Json.list items).pretty ++ "\n" }

/-- A text with blanks behind it up to a width. -/
def padRight (width : Nat) (s : String) : String :=
  s ++ String.ofList (List.replicate (width - s.length) ' ')

/-- The line for a route in a listing. -/
def routeLine (r : Route) : String := s!"  {padRight 40 r.template} -> {r.callback.text}\n"

/-- The lines for a bucket in a listing. -/
def bucketLines (b : String × List Route) : String :=
  s!"[{b.1}]\n" ++ String.join (b.2.map routeLine)

/-- The listing of a table. -/
def listing (t : Table) : Except Slot String := do
  let home ← t.homeRoute
  let error ← t.errorRoute
  .ok (s!"home  -> {home.callback.text}\nerror -> {error.callback.text}\n" ++
    String.join (t.buckets.map bucketLines))

/-- What a command does with the content of its file. -/
def run (c : Command) (content : Except FileError String) : Except ToolError Effect :=
  match c with
  | .compile _ out => do
    let config ← configOf content
    let t ← (compileTable config.router config.routes).mapError ToolError.compile
    match out <|> config.router.cachePath with
    | none => .error .noOutput
    | some path => do
      let blob ← t.exported.mapError ToolError.unset
      .ok ⟨s!"compiled {Text.digits t.size} routes into {path}\n", some (path, blob)⟩
  | .resolveConfig _ paths => do
    let config ← configOf content
    let t ← (compileTable config.router config.routes).mapError ToolError.compile
    resolved t paths
  | .resolveCache cache baseUrl paths => do
    let t ← tableOf cache baseUrl content
    resolved t paths
  | .inspect cache => do
    let t ← tableOf cache none content
    let output ← (listing t).mapError ToolError.unset
    .ok { output }

/-- Runs a command on a file tree; gives what it prints. -/
def runOn (c : Command) (files : FileTree) : Except ToolError String × FileTree :=
  match c.run (files.readText c.source) with
  | .error e => (.error e, files)
  | .ok effect =>
    match effect.replaced with
    | none => (.ok effect.output, files)
    | some (path, blob) =>
      let (written, files) := files.replaceText path blob
      (written.mapError ToolError.write |>.map fun _ => effect.output, files)

end Command

/-- The exit code of a command that fails. -/
def failureCode : Nat := 1

/-- The exit code for arguments that do not run a command. -/
def Stop.code : Stop → Nat
  | usage => 2
  | help => 0

/-- Runs the tool on a file tree; gives the exit code and what it prints. -/
def runTool (args : List String) (files : FileTree) : (Nat × String) × FileTree :=
  match Command.read args with
  | .error stop => ((stop.code, ""), files)
  | .ok c =>
    match c.runOn files with
    | (.ok output, files) => ((0, output), files)
    | (.error _, files) => ((failureCode, ""), files)

end PathRouter.Tool
