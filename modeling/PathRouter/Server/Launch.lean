import PathRouter.Server.Basic
import PathRouter.Tool.Command

/-!
# Launching a server

The server takes a configuration file, or the defaults without one, and uses the cache only if that
is not forbidden and the cache is fresh.
-/

namespace PathRouter

/-- The arguments of the server. -/
structure LaunchOptions where
  config : Option String := none
  noCache : Bool := false
  watch : Bool := false
deriving DecidableEq, Repr

/-- Why a server does not start. -/
inductive LaunchError where
  | stopped (stop : Tool.Stop)
  | config (cause : ConfigError)
  | compile (cause : CompileError)
deriving DecidableEq, Repr

/-- The exit code of a server that does not start. -/
def LaunchError.code : LaunchError → Nat
  | stopped stop => stop.code
  | config _ | compile _ => Tool.failureCode

namespace LaunchOptions

/-- Reads the arguments of the server. -/
def read (args : List String) : Except Tool.Stop LaunchOptions := do
  let a ← Tool.Arguments.read [Tool.Command.configOption,
    { name := "no-cache", takesValue := false }, { name := "watch", takesValue := false }] args
  match a.values with
  | [] => .ok ⟨a.option? "config", a.has "no-cache", a.has "watch"⟩
  | _ => .error .usage

/-- Whether the cache of a configuration is used: without a configuration file it is as fresh as can
be. -/
def usesCache (o : LaunchOptions) (files : FileTree) (c : Config) : Bool :=
  !o.noCache &&
    match c.router.cachePath, o.config with
    | some cache, some config => cacheIsFresh files cache config
    | some _, none => true
    | none, _ => false

/-- The configuration that the server starts with. -/
def configuration (o : LaunchOptions) (files : FileTree) : Except ConfigError Config :=
  match o.config with
  | some path => Config.load files path
  | none => .ok {}

/-- Starts the server; gives it with where its table was taken from. -/
def launch (o : LaunchOptions) (h : Host) :
    Except LaunchError (Server × TableSource) × Host :=
  match o.configuration h.files with
  | .error e => (.error (.config e), h)
  | .ok c =>
    match h.buildTable c (o.usesCache h.files c) with
    | (.ok built, h) => (.ok (.ofTable c built.table h, built.source), h)
    | (.error e, h) => (.error (.compile e), h)

end LaunchOptions

/-- Starts the server with some arguments. -/
def launchServer (args : List String) (h : Host) :
    Except LaunchError (Server × TableSource) × Host :=
  match LaunchOptions.read args with
  | .error stop => (.error (.stopped stop), h)
  | .ok o => o.launch h

end PathRouter
