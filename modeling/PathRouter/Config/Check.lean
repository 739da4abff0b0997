import PathRouter.Callback
import PathRouter.Config.Address
import PathRouter.Config.Basic
import PathRouter.Table.Basic

/-!
# Checking configurations

A configuration is checked for all its faults at once (`Config.faults`): addresses, the limit for
segments, empty callbacks, templates that are refused or occur twice up to the case of ASCII
letters, aliases of aliases, and callbacks that name an alias which is not there.
-/

namespace PathRouter

/-- The settings that hold an address. -/
inductive AddressField where
  | bind
  | metrics
deriving DecidableEq, Repr

/-- The name of a setting. -/
def AddressField.name : AddressField → String
  | bind => "listener.bind_address"
  | metrics => "observability.metrics_address"

/-- A fault of a configuration. Routes are counted from zero. -/
inductive ConfigFault where
  | invalidAddress (field : AddressField) (value : String)
  | zeroSegmentLimit
  | emptySpecialCallback (slot : Slot)
  | emptyCallback (index : Nat)
  | template (index : Nat) (path : String) (cause : CompileError)
  | duplicateRoute (index : Nat) (path : String)
  | unknownAlias (name : String)
  | nestedAlias (name : String)
deriving DecidableEq, Repr

/-- The wording of a fault. -/
def ConfigFault.message : ConfigFault → String
  | invalidAddress field value => s!"invalid {field.name} address '{value}'"
  | zeroSegmentLimit => "router.max_segments must be greater than zero"
  | emptySpecialCallback slot => s!"router.{slot.word} callback is empty"
  | emptyCallback index => s!"route #{index} has an empty callback"
  | template index path cause => s!"route #{index} ('{path}'): {cause.message}"
  | duplicateRoute index path => s!"route #{index} duplicates template '{path}'"
  | unknownAlias name => s!"callback '@{name}' refers to an unknown alias"
  | nestedAlias name =>
    s!"alias '{name}' must point at a function or Class::method, not another alias"

namespace Config

/-- The fault of a setting that holds no address. -/
def addressFaults (field : AddressField) (value : String) : List ConfigFault :=
  if Address.isSocket value then [] else [.invalidAddress field value]

/-- Whether a text names no callback. -/
def isBlankText (s : String) : Bool := (Text.trim s).isEmpty

/-- The faults of the callbacks of the home and error routes. -/
def specialFaults (c : RoutingConfig) : List ConfigFault :=
  (if isBlankText c.home then [.emptySpecialCallback .home] else []) ++
    if isBlankText c.error then [.emptySpecialCallback .error] else []

/-- The form of a template in which two that are alike agree. -/
def likeness (segments : List Segment) : String := Text.asciiLowercase (Template.text segments)

/-- The faults of a template, and the likenesses of it and of the earlier ones. The template of the
root path has none, and without a limit none is checked. -/
def templateFaults (limit index : Nat) (seen : List String) (path : String) :
    List ConfigFault × List String :=
  if Template.isRoot path || limit == 0 then ([], seen)
  else
    match Template.read limit path with
    | .error e => ([.template index path e], seen)
    | .ok segments =>
      let t := likeness segments
      if seen.contains t then ([.duplicateRoute index t], seen) else ([], t :: seen)

/-- The faults of the routes from an index on, after routes with the likenesses `seen`. -/
def routeFaults (limit index : Nat) (seen : List String) : List RouteDefinition → List ConfigFault
  | [] => []
  | r :: rs =>
    let (faults, seen) := templateFaults limit index seen r.path
    (if isBlankText r.callback then [.emptyCallback index] else []) ++ faults ++
      routeFaults limit (index + 1) seen rs

/-- The faults of the aliases: their targets are no aliases. -/
def aliasFaults (aliases : List (String × String)) : List ConfigFault :=
  (aliases.filter fun p => (Callback.ofText p.2).isAlias).map fun p => .nestedAlias p.1

/-- The texts of all callbacks, those of the home and error routes first. -/
def callbackTexts (c : Config) : List String :=
  c.router.home :: c.router.error :: c.routes.map RouteDefinition.callback

/-- The faults of the callbacks: an alias that one names is there. -/
def unknownFaults (c : Config) : List ConfigFault :=
  c.callbackTexts.filterMap fun s =>
    match Callback.ofText s with
    | .aliased name => if (c.aliases.lookup name).isSome then none else some (.unknownAlias name)
    | _ => none

/-- All faults of a configuration. -/
def faults (c : Config) : List ConfigFault :=
  addressFaults .bind c.listener.bindAddress ++
    (if c.observability.metricsEnabled then addressFaults .metrics c.observability.metricsAddress
      else []) ++
    (if c.router.maxSegments = 0 then [.zeroSegmentLimit] else []) ++
    specialFaults c.router ++
    routeFaults c.router.maxSegments 0 [] c.routes ++
    aliasFaults c.aliases ++
    unknownFaults c

end Config

end PathRouter
