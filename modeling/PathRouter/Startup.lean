import PathRouter.Config.Load
import PathRouter.Metrics
import PathRouter.Table.Cached

/-!
# Startup

A table is compiled from the routes of a configuration (`compileTable`) or loaded from the cache
that the configuration names (`Host.buildTable`). A cache that is missing or refused costs a
compilation, which writes it anew, and is never an error. At startup a cache is only used if it is
at least as new as the configuration (`cacheIsFresh`).
-/

namespace PathRouter

/-- The table with the routes of some definitions added in order. -/
def Table.addRoutes (t : Table) : List RouteDefinition → Except CompileError Table
  | [] => .ok t
  | r :: rs => do
    let (_, t) ← t.addRoute r.path (.ofText r.callback)
    addRoutes t rs

/-- The table that routing settings and routes describe. -/
def compileTable (router : RoutingConfig) (routes : List RouteDefinition) :
    Except CompileError Table :=
  let t : Table := { options := router.tableOptions }
  ((t.setHome (.ofText router.home)).setError (.ofText router.error)).addRoutes routes

/-- The aliases of a configuration. -/
def Config.aliasRegistry (c : Config) : Aliases := c.aliases.map fun p => (p.1, .ofText p.2)

/-- Whether a cache file is at least as new as a configuration file; both have to be there. -/
def cacheIsFresh (files : FileTree) (cachePath configPath : String) : Bool :=
  match files.modified? cachePath, files.modified? configPath with
  | some cache, some config => config ≤ cache
  | _, _ => false

/-- A table with where it was taken from. -/
structure BuiltTable where
  table : Table
  source : TableSource

/-- What a router runs on: its files and its metrics. -/
structure Host where
  files : FileTree := {}
  metrics : Metrics := {}

namespace Host

/-- Counts something once. -/
def tick (h : Host) (c : Counter) : Host := { h with metrics := h.metrics.tick c }

/-- Counts a table that was built. -/
def built (h : Host) (source : TableSource) (t : Table) : Host :=
  { h with metrics := h.metrics.recordBuild source t.size }

/-- The table in the cache of a configuration, if there is one that can be used. A cache that can be
read and is refused is counted. -/
def loadCache (h : Host) (router : RoutingConfig) : Option Table × Host :=
  match router.cachePath with
  | none => (none, h)
  | some path =>
    match h.files.readText? path with
    | .ok (some blob) =>
      match Table.imported router.tableOptions blob with
      | .ok t => (some t, h.built .cache t)
      | .error _ => (none, h.tick .cacheRejected)
    | _ => (none, h)

/-- Writes the cache of a configuration; that may fail. -/
def writeCache (h : Host) (router : RoutingConfig) (t : Table) : Host :=
  match router.cachePath, t.exported with
  | some path, .ok blob => { h with files := (h.files.replaceText path blob).2 }
  | _, _ => h

/-- Compiles the table of a configuration and writes its cache. -/
def compile (h : Host) (c : Config) : Except CompileError BuiltTable × Host :=
  match compileTable c.router c.routes with
  | .error e => (.error e, h)
  | .ok t => (.ok ⟨t, .compiled⟩, (h.built .compiled t).writeCache c.router t)

/-- The table of a configuration, from its cache if that is to be used and can be, else compiled. -/
def buildTable (h : Host) (c : Config) (useCache : Bool) :
    Except CompileError BuiltTable × Host :=
  if useCache then
    match h.loadCache c.router with
    | (some t, h) => (.ok ⟨t, .cache⟩, h)
    | (none, h) => h.compile c
  else h.compile c

end Host

end PathRouter
