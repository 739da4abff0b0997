import PathRouter.Server.Basic

/-!
# Traffic

While a server runs, configurations are pushed to it and requests come in. One task takes the
configurations in the order in which they were pushed: it builds the table of one, and then either
replaces what is live or does not, before it takes the next. Requests are answered next to it. A
request takes what is live when it comes in and keeps that, is resolved in its table, and is fired
with its aliases. All these are events, which can happen in any order; one that cannot happen changes
nothing.
-/

namespace PathRouter

/-- How far a request is. -/
inductive Progress where
  | accepted
  | resolved (found : Except Slot RouteMatch)
  | answered (response : Response)

/-- A request: its raw path, what was live when it came in, and how far it is. -/
structure Request where
  raw : String
  seen : Live
  progress : Progress := .accepted

/-- A running server: the configurations that wait, the one that was taken with what was built from
it, those that are settled, and all requests so far. -/
structure Traffic where
  server : Server
  waiting : List Config := []
  taken : Option (Config × Except CompileError BuiltTable) := none
  settled : List Config := []
  requests : List Request := []

namespace Traffic

/-- Something that happens while a server runs. -/
inductive Event where
  | push (c : Config)
  | build
  | settle
  | accept (raw : String)
  | resolve (i : Nat)
  | fire (i : Nat)

/-- A server that starts to run. -/
def start (s : Server) : Traffic := { server := s }

/-- What an event changes. -/
def step (u : Traffic) : Event → Traffic
  | .push c => { u with waiting := u.waiting ++ [c] }
  | .build =>
    match u.taken, u.waiting with
    | none, c :: cs =>
      let (built, host) := u.server.host.buildTable c false
      { u with server := { u.server with host }, waiting := cs, taken := some (c, built) }
    | _, _ => u
  | .settle =>
    match u.taken with
    | some (c, built) =>
      { u with server := u.server.adopt c built, taken := none, settled := u.settled ++ [c] }
    | none => u
  | .accept raw => { u with requests := u.requests ++ [{ raw, seen := u.server.live }] }
  | .resolve i =>
    match u.requests[i]? with
    | some ⟨raw, seen, .accepted⟩ =>
      let (found, metrics) := seen.table.resolveCounted raw u.server.host.metrics
      { u with
        server := { u.server with host := { u.server.host with metrics } }
        requests := u.requests.set i ⟨raw, seen, .resolved found⟩ }
    | _ => u
  | .fire i =>
    match u.requests[i]? with
    | some ⟨raw, seen, .resolved found⟩ =>
      let (response, server) := u.server.answer seen.aliases found
      { u with server, requests := u.requests.set i ⟨raw, seen, .answered response⟩ }
    | _ => u

/-- What events change, one after another. -/
def run (u : Traffic) (es : List Event) : Traffic := es.foldl step u

end Traffic

end PathRouter
