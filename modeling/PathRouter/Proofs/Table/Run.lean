import Mathlib.Data.List.Induction
import PathRouter.Proofs.Table.Buckets
import PathRouter.Table.Cached

/-!
# Runs of a table

A table is changed by calls (`Call`): a route is added by its template or by its exported text, and
the home and the error route are set. A call that is refused leaves the table as it was
(`Table.call`). What a call does is said once for each part of the table: `call_options`,
`call_buckets`, `call_home` and `call_error`. A table is `Reachable` if it is new or loaded from an
exported text and then changed by calls.
-/

namespace PathRouter

/-- A call that changes a table. -/
inductive Call where
  | addRoute (template : String) (callback : Callback)
  | addCached (blob : String)
  | setHome (callback : Callback)
  | setError (callback : Callback)

namespace Call

/-- The route that a call puts into a bucket of a table with a limit, if it is accepted. -/
def stored? (limit : Nat) : Call → Option Route
  | addRoute template callback =>
    if Template.isRoot template then none else (Route.compile limit template callback).toOption
  | addCached blob => (Table.importRoute limit blob).toOption
  | setHome _ | setError _ => none

/-- The home route that a call sets, if it sets one. -/
def home? : Call → Option Route
  | addRoute template callback =>
    if Template.isRoot template then some (.special callback) else none
  | setHome callback => some (.special callback)
  | addCached _ | setError _ => none

/-- The error route that a call sets, if it sets one. -/
def error? : Call → Option Route
  | setError callback => some (.special callback)
  | addRoute _ _ | addCached _ | setHome _ => none

theorem toOption_eq_some {ε α : Type} {x : Except ε α} {a : α} :
    x.toOption = some a ↔ x = .ok a := by
  cases x <;> simp [Except.toOption]

/-- A stored route is compiled or imported. -/
theorem stored?_cases {limit : Nat} {c : Call} {r : Route} (h : c.stored? limit = some r) :
    (∃ template callback, c = addRoute template callback ∧
      Route.compile limit template callback = .ok r) ∨
    ∃ blob, c = addCached blob ∧ Table.importRoute limit blob = .ok r := by
  cases c with
  | addRoute template callback =>
    rw [stored?] at h
    split_ifs at h
    exact Or.inl ⟨template, callback, rfl, toOption_eq_some.mp h⟩
  | addCached blob =>
    rw [stored?] at h
    exact Or.inr ⟨blob, rfl, toOption_eq_some.mp h⟩
  | setHome callback => simp [stored?] at h
  | setError callback => simp [stored?] at h

/-- A home route that is set has no segments. -/
theorem special_of_home? {c : Call} {r : Route} (h : c.home? = some r) :
    ∃ callback, r = .special callback := by
  cases c with
  | addRoute template callback =>
    rw [home?] at h
    split_ifs at h
    exact ⟨callback, (Option.some.inj h).symm⟩
  | setHome callback => exact ⟨callback, (Option.some.inj h).symm⟩
  | addCached blob => simp [home?] at h
  | setError callback => simp [home?] at h

/-- An error route that is set has no segments. -/
theorem special_of_error? {c : Call} {r : Route} (h : c.error? = some r) :
    ∃ callback, r = .special callback := by
  cases c with
  | setError callback => exact ⟨callback, (Option.some.inj h).symm⟩
  | addRoute template callback => simp [error?] at h
  | addCached blob => simp [error?] at h
  | setHome callback => simp [error?] at h

end Call

namespace Table

/-- The table after a call; a call that is refused leaves it as it was. -/
def call (t : Table) : Call → Table
  | .addRoute template callback =>
    match t.addRoute template callback with
    | .ok (_, u) => u
    | .error _ => t
  | .addCached blob =>
    match t.addCached blob with
    | .ok (_, u) => u
    | .error _ => t
  | .setHome callback => t.setHome callback
  | .setError callback => t.setError callback

/-- The table after some calls, the first one first. -/
def run (t : Table) (calls : List Call) : Table := calls.foldl call t

/-- The tables that new and loaded tables become by calls. -/
inductive Reachable : Table → Prop where
  | new (options : TableOptions) : Reachable { options }
  | loaded {options : TableOptions} {blob : String} {t : Table}
    (h : imported options blob = .ok t) : Reachable t
  | call {t : Table} (h : Reachable t) (c : Call) : Reachable (t.call c)

variable (t : Table) (c : Call)

/-- The table with one more route in a bucket, if there is one. -/
def insert? : Option Route → Table
  | some r => t.insert r
  | none => t

/-- What a call does: it adds the route that it stores, or sets a slot, or nothing. -/
theorem call_cases : t.call c = t.insert? (c.stored? t.options.maxSegments) ∧
      c.home? = none ∧ c.error? = none ∨
    (∃ r, c.stored? t.options.maxSegments = none ∧ c.home? = some r ∧ c.error? = none ∧
      t.call c = { t with home := some r }) ∨
    ∃ r, c.stored? t.options.maxSegments = none ∧ c.home? = none ∧ c.error? = some r ∧
      t.call c = { t with error := some r } := by
  cases c with
  | addRoute template callback =>
    by_cases hr : Template.isRoot template
    · refine Or.inr (Or.inl ⟨.special callback, ?_⟩)
      simp [call, addRoute, Call.stored?, Call.home?, Call.error?, hr, setHome]
    · refine Or.inl ⟨?_, by simp [Call.home?, hr], rfl⟩
      cases hc : Route.compile t.options.maxSegments template callback <;>
        simp [call, addRoute, Call.stored?, insert?, hr, hc, bind, Except.bind, Except.toOption]
  | addCached blob =>
    refine Or.inl ⟨?_, rfl, rfl⟩
    cases hc : importRoute t.options.maxSegments blob <;>
      simp [call, addCached, Call.stored?, insert?, hc, bind, Except.bind, Except.toOption]
  | setHome callback => exact Or.inr (Or.inl ⟨_, rfl, rfl, rfl, rfl⟩)
  | setError callback => exact Or.inr (Or.inr ⟨_, rfl, rfl, rfl, rfl⟩)

@[simp] theorem call_options : (t.call c).options = t.options := by
  rcases t.call_cases c with ⟨h, -⟩ | ⟨r, -, -, -, h⟩ | ⟨r, -, -, -, h⟩ <;> rw [h]
  cases c.stored? t.options.maxSegments <;> rfl

theorem call_buckets : (t.call c).buckets =
    (t.insert? (c.stored? t.options.maxSegments)).buckets := by
  rcases t.call_cases c with ⟨h, -⟩ | ⟨r, hs, -, -, h⟩ | ⟨r, hs, -, -, h⟩ <;> rw [h]
  all_goals rw [hs]; rfl

theorem call_home : (t.call c).home = c.home?.or t.home := by
  rcases t.call_cases c with ⟨h, hh, -⟩ | ⟨r, -, hh, -, h⟩ | ⟨r, -, hh, -, h⟩ <;> rw [h, hh]
  · cases c.stored? t.options.maxSegments <;> rfl
  all_goals rfl

theorem call_error : (t.call c).error = c.error?.or t.error := by
  rcases t.call_cases c with ⟨h, -, he⟩ | ⟨r, -, -, he, h⟩ | ⟨r, -, -, he, h⟩ <;> rw [h, he]
  · cases c.stored? t.options.maxSegments <;> rfl
  all_goals rfl

theorem run_append (calls : List Call) : t.run (calls ++ [c]) = (t.run calls).call c := by
  simp [run]

theorem run_options (calls : List Call) : (t.run calls).options = t.options := by
  induction calls using List.reverseRecOn with
  | nil => rfl
  | append_singleton calls c ih => rw [run_append, call_options, ih]

variable {t} in
theorem Reachable.run (h : Reachable t) (calls : List Call) : Reachable (t.run calls) := by
  induction calls using List.reverseRecOn with
  | nil => exact h
  | append_singleton calls c ih => exact run_append t c calls ▸ ih.call c

end Table

end PathRouter
