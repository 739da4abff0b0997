import PathRouter.Json.Printer
import PathRouter.Table.Cached
import PathRouter.Registry

/-!
# Responses and the handlers that come with the router

A handler answers with a status, a type of content and a body. A configuration can name these:
`home`, a banner; `echo`, which describes its match; `not_found`, an error with the status of its
match; `Health::check`; and `Routes::cache`, which exports the table that is live.
-/

namespace PathRouter

/-- An answer to a request. -/
structure Response where
  status : Nat := 200
  contentType : String
  body : String
deriving DecidableEq, Repr

namespace Response

/-- An answer in plain text. -/
def plain (body : String) (status : Nat := 200) : Response :=
  ⟨status, "text/plain; charset=utf-8", body⟩

/-- An answer in JSON. -/
def json (body : String) (status : Nat := 200) : Response := ⟨status, "application/json", body⟩

/-- The banner of the router. -/
def home : Response := plain "segment-router 0.1.0"

/-- The parameters of a match as a record. -/
def paramsJson (m : RouteMatch) : Json :=
  .record ((Assoc.sorted m.params).map fun p => (p.1, .text p.2))

/-- The description of a match. -/
def echo (m : RouteMatch) : Response :=
  let v : Json := .record [("base", .text m.route.base), ("outcome", .text m.outcome.word),
    ("params", paramsJson m), ("route", .text m.route.template)]
  json v.compact

/-- The status of an answer to a match: that of its parameter, if it is one from 100 to 999, else
the one of what is not found. -/
def notFoundStatus (m : RouteMatch) : Nat :=
  match m.status? with
  | some s => if 100 ≤ s ∧ s ≤ 999 then s else Table.notFoundStatus
  | none => Table.notFoundStatus

/-- The error for a match. The body names the status that the match has, whatever it is. -/
def notFound (m : RouteMatch) : Response :=
  let code := m.status?.getD Table.notFoundStatus
  let v : Json := .record [("error", .text "no route matched"), ("status", .ofNat code)]
  json v.compact (notFoundStatus m)

/-- The answer that all is well. -/
def health : Response := plain "ok"

/-- The exported text of a table. -/
def cacheDump (t : Table) : Response :=
  match t.exported with
  | .ok blob => json blob
  | .error _ => plain "Route cache unavailable" 500

/-- The answer to a request that cannot be dispatched. -/
def dispatchFailed : Response := plain "Route dispatch failed" 500

/-- The handlers that come with the router, for a table that is live. -/
def builtin (live : Table) : Handlers Response :=
  let h : Handlers Response := {}
  ((((h.function "home" fun _ => home).function "echo" echo).function "not_found" notFound).method
    "Health" "check" fun _ => health).method "Routes" "cache" fun _ => cacheDump live

end Response

end PathRouter
