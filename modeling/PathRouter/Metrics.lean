import PathRouter.Assoc
import PathRouter.Dispatch

/-!
# Metrics

Counters for resolved paths, for tables that were built, for caches that were refused and for
dispatches that failed, and the number of routes of the table built last.
-/

namespace PathRouter

/-- Where a table was taken from: a cache, or the definitions of its routes. -/
inductive TableSource where
  | cache
  | compiled
deriving DecidableEq, Repr

/-- The word for a source. -/
def TableSource.word : TableSource → String
  | cache => "cache"
  | compiled => "compiled"

/-- How a dispatch failed. -/
inductive DispatchFailure where
  | unresolvedAlias
  | unresolvedHandler
  | configuration
deriving DecidableEq, Repr

/-- The word for a failure. -/
def DispatchFailure.word : DispatchFailure → String
  | unresolvedAlias => "unresolved_alias"
  | unresolvedHandler => "unresolved_handler"
  | configuration => "configuration"

/-- The failure that an error counts as. -/
def DispatchError.failure : DispatchError → DispatchFailure
  | .unset _ => .configuration
  | .fire (.unresolvedAlias _) => .unresolvedAlias
  | .fire (.unresolvedHandler _) => .unresolvedHandler

/-- What is counted. -/
inductive Counter where
  | resolutions (outcome : Outcome)
  | tableBuilds (source : TableSource)
  | cacheRejected
  | dispatchErrors (failure : DispatchFailure)
deriving DecidableEq, Repr

/-- A name with a label, in the text form of Prometheus. -/
def labelled (name label value : String) : String :=
  s!"{name}\x7b{label}=\"{value}\"\x7d"

/-- The name of a counter, in the text form of Prometheus. -/
def Counter.name : Counter → String
  | resolutions outcome => labelled "router_resolutions_total" "outcome" outcome.word
  | tableBuilds source => labelled "router_table_builds_total" "source" source.word
  | cacheRejected => "router_cache_rejected_total"
  | dispatchErrors failure => labelled "router_dispatch_errors_total" "kind" failure.word

/-- What was counted, and the number of routes of the table built last, if any was. -/
structure Metrics where
  counts : List (Counter × Nat) := []
  routes : Option Nat := none
deriving DecidableEq, Repr

namespace Metrics

/-- How often something was counted. -/
def count (m : Metrics) (c : Counter) : Nat := (m.counts.lookup c).getD 0

/-- Counts something once. -/
def tick (c : Counter) (m : Metrics) : Metrics :=
  { m with counts := Assoc.put c (m.count c + 1) m.counts }

/-- Counts a table of a number of routes that was built. -/
def recordBuild (source : TableSource) (routes : Nat) (m : Metrics) : Metrics :=
  { m.tick (.tableBuilds source) with routes := some routes }

@[simp] theorem count_tick (m : Metrics) (c d : Counter) :
    (m.tick c).count d = m.count d + if d = c then 1 else 0 := by
  unfold tick count
  rw [Assoc.lookup_put]
  by_cases h : d = c
  · subst h
    simp
  · simp [h]

@[simp] theorem count_recordBuild (m : Metrics) (source : TableSource) (routes : Nat)
    (d : Counter) : (m.recordBuild source routes).count d =
      m.count d + if d = .tableBuilds source then 1 else 0 :=
  count_tick m _ d

/-- The values of all metrics that were touched, by name. -/
def toList (m : Metrics) : List (String × Nat) :=
  m.counts.map (fun p => (p.1.name, p.2)) ++ m.routes.toList.map fun n => ("router_routes", n)

end Metrics

/-- Resolves a raw path and counts the outcome, if there is one. -/
def Table.resolveCounted (t : Table) (raw : String) (metrics : Metrics) :
    Except Slot RouteMatch × Metrics :=
  match t.resolve raw with
  | .ok m => (.ok m, metrics.tick (.resolutions m.outcome))
  | .error e => (.error e, metrics)

end PathRouter
