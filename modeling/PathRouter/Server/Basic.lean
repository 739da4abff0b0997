import PathRouter.Server.Response
import PathRouter.Startup

/-!
# Servers

A server answers requests with a table and the aliases that belong to it. Both are replaced together
when a new configuration compiles, and stay when it does not, so that every request is resolved and
its alias looked up in what one configuration gave.
-/

namespace PathRouter

/-- A table with the aliases of its callbacks. -/
structure Live where
  table : Table
  aliases : Aliases

/-- A server: what is live, the handlers it has for a live table, and what it runs on. -/
structure Server where
  live : Live
  handlers : Table → Handlers Response := Response.builtin
  host : Host := {}

namespace Server

/-- The server of a table that was built from a configuration. -/
def ofTable (c : Config) (t : Table) (h : Host) : Server :=
  { live := ⟨t, c.aliasRegistry⟩, host := h }

/-- The server of a configuration, whose table is compiled. -/
def start (h : Host) (c : Config) : Except CompileError Server × Host :=
  match h.buildTable c false with
  | (.ok built, h) => (.ok (ofTable c built.table h), h)
  | (.error e, h) => (.error e, h)

/-- The server with other handlers. -/
def withHandlers (s : Server) (handlers : Table → Handlers Response) : Server := { s with handlers }

/-- The response to a request that was resolved, with the aliases that belong to the table it was
resolved in. The handlers are those for the table that is live. -/
def answer (s : Server) (aliases : Aliases) (found : Except Slot RouteMatch) : Response × Server :=
  let fired : Except DispatchError Response := do
    let m ← found.mapError DispatchError.unset
    (m.fire (s.handlers s.live.table) aliases).mapError DispatchError.fire
  match fired with
  | .ok r => (r, s)
  | .error e => (.dispatchFailed, { s with host := s.host.tick (.dispatchErrors e.failure) })

/-- The response to a request for a raw path. -/
def respond (s : Server) (raw : String) : Response × Server :=
  let (found, metrics) := s.live.table.resolveCounted raw s.host.metrics
  { s with host := { s.host with metrics } }.answer s.live.aliases found

/-- Takes the table that was built from a configuration, with its aliases; keeps what is live if
there is none. -/
def adopt (s : Server) (c : Config) : Except CompileError BuiltTable → Server
  | .ok built => { s with live := ⟨built.table, c.aliasRegistry⟩ }
  | .error _ => s

/-- Takes a new configuration, whose table is compiled; tells whether it is live now. -/
def reload (s : Server) (c : Config) : Bool × Server :=
  let (built, host) := s.host.buildTable c false
  (built.isOk, { s with host }.adopt c built)

end Server

end PathRouter
