import PathRouter.Table.Options

/-!
# Configurations

What a router is started with, in sections: where to listen, how to route, the routes, the aliases,
the time limits, and what to log and measure. Every setting but those of a route has a default.
-/

namespace PathRouter

/-- Where requests come in. -/
structure ListenerConfig where
  bindAddress : String := "0.0.0.0:8080"
deriving DecidableEq, Repr

/-- Settings of the route table. `cachePath` is the file that a compiled table is written to; `home`
and `error` are the callbacks for the root path and for unmatched paths. -/
structure RoutingConfig where
  baseUrl : Option String := none
  priority : Priority := .firstWins
  maxSegments : Nat := Template.defaultLimit
  cachePath : Option String := none
  home : String := "home"
  error : String := "not_found"
deriving DecidableEq, Repr

/-- A route: its template and the text of its callback. -/
structure RouteDefinition where
  path : String
  callback : String
deriving DecidableEq, Repr

/-- Time limits. -/
structure TimeoutConfig where
  requestSeconds : Nat := 30
deriving DecidableEq, Repr

/-- What is logged and measured. -/
structure ObservabilityConfig where
  logLevel : String := "info"
  jsonLogs : Bool := false
  metricsEnabled : Bool := false
  metricsAddress : String := "0.0.0.0:9090"
deriving DecidableEq, Repr

/-- A configuration. The routes are in the order in which they are added, and the aliases have
ascending names. -/
structure Config where
  listener : ListenerConfig := {}
  router : RoutingConfig := {}
  routes : List RouteDefinition := []
  aliases : List (String × String) := []
  timeouts : TimeoutConfig := {}
  observability : ObservabilityConfig := {}
deriving DecidableEq, Repr

/-- The options of the table that a configuration describes. -/
def RoutingConfig.tableOptions (c : RoutingConfig) : TableOptions :=
  ⟨c.baseUrl, c.priority, c.maxSegments⟩

end PathRouter
