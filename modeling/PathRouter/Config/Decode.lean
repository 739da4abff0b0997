import PathRouter.Assoc
import PathRouter.Config.Basic

/-!
# Decoding configurations

A configuration is decoded from a JSON value. A section is a record, whose unknown fields are passed
over, or a list of its settings in order, which may stop early. What is missing has its default, and
only a setting that may be absent can be `null`. The languages that configurations are written in
differ in two points (`Dialect`).
-/

namespace PathRouter.Config

/-- Whether a list may have more items than a section has settings, and what counts as nothing as
the content of a choice. -/
structure Dialect where
  allowsExtra : Bool
  isNothing : Json → Bool

namespace Dialect

/-- Configurations in JSON: no more items, and `null` is nothing. -/
def json : Dialect := ⟨false, Json.isNull⟩

/-- Whether a value has no parts. -/
def isVacant : Json → Bool
  | .list [] | .record [] => true
  | _ => false

/-- Configurations in TOML: further items do not count, and what has no parts is nothing. -/
def toml : Dialect := ⟨true, isVacant⟩

end Dialect

/-- The settings that a section gives, by name. -/
def section? (d : Dialect) (names : List String) : Json → Option (List (String × Json))
  | .record fields => some fields
  | .list items =>
    if names.length < items.length ∧ !d.allowsExtra then none else some (names.zip items)
  | _ => none

/-- A setting, or its default if the section does not give it. -/
def setting? {α : Type} (fields : List (String × Json)) (name : String) (default : α)
    (read? : Json → Option α) : Option α :=
  match fields.lookup name with
  | none => some default
  | some v => read? v

/-- A text that may be absent. -/
def optionalText? : Json → Option (Option String)
  | .null => some none
  | v => v.asText?.map some

/-- Decodes where to listen. -/
def listener? (d : Dialect) (v : Json) : Option ListenerConfig := do
  let fields ← section? d ["bind_address"] v
  let bindAddress ← setting? fields "bind_address" ({} : ListenerConfig).bindAddress Json.asText?
  some { bindAddress }

/-- Decodes a priority. -/
def priority? (d : Dialect) (v : Json) : Option Priority :=
  (v.choice? d.isNothing).bind Priority.ofWord?

/-- Decodes the settings of the route table. -/
def router? (d : Dialect) (v : Json) : Option RoutingConfig := do
  let fields ← section? d
    ["base_url", "priority", "max_segments", "cache_path", "home", "error"] v
  let defaults : RoutingConfig := {}
  let baseUrl ← setting? fields "base_url" defaults.baseUrl optionalText?
  let priority ← setting? fields "priority" defaults.priority (priority? d)
  let maxSegments ← setting? fields "max_segments" defaults.maxSegments Json.asUnsigned?
  let cachePath ← setting? fields "cache_path" defaults.cachePath optionalText?
  let home ← setting? fields "home" defaults.home Json.asText?
  let error ← setting? fields "error" defaults.error Json.asText?
  some { baseUrl, priority, maxSegments, cachePath, home, error }

/-- Decodes a route, which has to have both its settings. -/
def route? (d : Dialect) (v : Json) : Option RouteDefinition := do
  let fields ← section? d ["path", "callback"] v
  let path ← (fields.lookup "path").bind Json.asText?
  let callback ← (fields.lookup "callback").bind Json.asText?
  some { path, callback }

/-- Decodes a list of routes. -/
def routes? (d : Dialect) (v : Json) : Option (List RouteDefinition) := do
  let items ← v.asList?
  items.mapM (route? d)

/-- Decodes the aliases. -/
def aliases? (v : Json) : Option (List (String × String)) := do
  let fields ← v.asRecord?
  let texts ← fields.mapM fun p => p.2.asText?.map fun s => (p.1, s)
  some (Assoc.sorted texts)

/-- Decodes the time limits. -/
def timeouts? (d : Dialect) (v : Json) : Option TimeoutConfig := do
  let fields ← section? d ["request_secs"] v
  let requestSeconds ←
    setting? fields "request_secs" ({} : TimeoutConfig).requestSeconds Json.asUnsigned?
  some { requestSeconds }

/-- Decodes what is logged and measured. -/
def observability? (d : Dialect) (v : Json) : Option ObservabilityConfig := do
  let fields ← section? d ["log_level", "json_logs", "metrics_enabled", "metrics_address"] v
  let defaults : ObservabilityConfig := {}
  let logLevel ← setting? fields "log_level" defaults.logLevel Json.asText?
  let jsonLogs ← setting? fields "json_logs" defaults.jsonLogs Json.asFlag?
  let metricsEnabled ← setting? fields "metrics_enabled" defaults.metricsEnabled Json.asFlag?
  let metricsAddress ← setting? fields "metrics_address" defaults.metricsAddress Json.asText?
  some { logLevel, jsonLogs, metricsEnabled, metricsAddress }

/-- Decodes a configuration. -/
def ofJson? (d : Dialect) (v : Json) : Option Config := do
  let fields ← section? d
    ["listener", "router", "routes", "aliases", "timeouts", "observability"] v
  let listener ← setting? fields "listener" {} (listener? d)
  let router ← setting? fields "router" {} (router? d)
  let routes ← setting? fields "routes" [] (routes? d)
  let aliases ← setting? fields "aliases" [] aliases?
  let timeouts ← setting? fields "timeouts" {} (timeouts? d)
  let observability ← setting? fields "observability" {} (observability? d)
  some { listener, router, routes, aliases, timeouts, observability }

end PathRouter.Config
