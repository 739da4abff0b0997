import PathRouter.Proofs.Path
import PathRouter.Proofs.Table.Run

/-!
# What a table answers, from the calls it got

The answer to a raw path depends on the calls that a new table got, in their order, and on nothing
else (`resolve_run`): the root is answered by the home route set last, any other path by the first
of the stored routes with the key of its first segment that takes it, and what none of them takes by
the error route set last. Under `lastWins` the stored routes are tried backwards. What carries the
proof is one equation for each part of the table: `run_home`, `run_error` and `lookup_run`.
-/

namespace PathRouter

namespace History

variable (options : TableOptions) (calls : List Call)

/-- The routes stored by some calls, in their order. -/
def stored : List Route := calls.filterMap (Call.stored? options.maxSegments)

/-- The home route set last. -/
def lastHome : Option Route := (calls.filterMap Call.home?).getLast?

/-- The error route set last. -/
def lastError : Option Route := (calls.filterMap Call.error?).getLast?

/-- The stored routes whose base is a text in lower case, in the order of trying. -/
def candidates (first : String) : List Route :=
  options.priority.order ((stored options calls).filter fun r =>
    Text.lowercase r.base == Text.lowercase first)

/-- The first of some routes that takes a path, with the parameters that it binds. -/
def firstTaking (path : String) : List Route → Option RouteMatch
  | [] => none
  | r :: rs =>
    match r.verify? path with
    | some params => some ⟨r, .matched, params⟩
    | none => firstTaking path rs

/-- The text between the first slash of a normal path and the next one. -/
def firstOf (path : String) : String := (Text.segmentsOf path).headD ""

/-- The answer to a normal path after some calls. -/
def answer (path : String) : Except Slot RouteMatch :=
  if path = "/" then
    match lastHome calls with
    | some r => .ok ⟨r, .home, []⟩
    | none => .error .home
  else
    match firstTaking path (candidates options calls (firstOf path)) with
    | some m => .ok m
    | none =>
      match lastError calls with
      | some r => .ok ⟨r, .notFound, [("status", "404")]⟩
      | none => .error .error

theorem firstTaking_eq (path : String) (rs : List Route) :
    firstTaking path rs = rs.findSome? (·.match? path) := by
  induction rs with
  | nil => rfl
  | cons r rs ih =>
    rw [firstTaking, List.findSome?_cons, ← ih, Route.match?]
    cases r.verify? path <;> rfl

end History

namespace Table

open History

variable (options : TableOptions) (calls : List Call)

theorem run_home (t : Table) : (t.run calls).home = (lastHome calls).or t.home := by
  induction calls using List.reverseRecOn with
  | nil => rfl
  | append_singleton calls c ih =>
    rw [run_append, call_home, ih, lastHome, lastHome, List.filterMap_append]
    cases hc : c.home? <;> simp [hc]

theorem run_error (t : Table) : (t.run calls).error = (lastError calls).or t.error := by
  induction calls using List.reverseRecOn with
  | nil => rfl
  | append_singleton calls c ih =>
    rw [run_append, call_error, ih, lastError, lastError, List.filterMap_append]
    cases hc : c.error? <;> simp [hc]

variable {options calls} in
theorem run_new_home : (run { options } calls).home = lastHome calls := by
  rw [run_home]
  exact Option.or_none

variable {options calls} in
theorem run_new_error : (run { options } calls).error = lastError calls := by
  rw [run_error]
  exact Option.or_none

variable {calls} in
/-- What a call sets a slot to has no segments. -/
theorem special_of_lastHome {r : Route} (h : lastHome calls = some r) :
    ∃ callback, r = .special callback := by
  obtain ⟨c, -, hc⟩ := List.mem_filterMap.mp (List.mem_of_getLast? h)
  exact Call.special_of_home? hc

variable {calls} in
theorem special_of_lastError {r : Route} (h : lastError calls = some r) :
    ∃ callback, r = .special callback := by
  obtain ⟨c, -, hc⟩ := List.mem_filterMap.mp (List.mem_of_getLast? h)
  exact Call.special_of_error? hc

theorem ascending_call {t : Table} (h : t.buckets.Ascending) (c : Call) :
    (t.call c).buckets.Ascending := by
  rw [call_buckets]
  cases c.stored? t.options.maxSegments with
  | none => exact h
  | some r => exact Buckets.ascending_insert h

theorem ascending_run : (run { options } calls).buckets.Ascending := by
  induction calls using List.reverseRecOn with
  | nil => exact List.Pairwise.nil
  | append_singleton calls c ih =>
    rw [run_append]
    exact ascending_call ih c

/-- The stored routes with a key, in their order. -/
def storedUnder (k : String) : List Route :=
  (stored options calls).filter fun r => key r.base == k

theorem storedUnder_append (k : String) (c : Call) : storedUnder options (calls ++ [c]) k =
    storedUnder options calls k ++
      (c.stored? options.maxSegments).toList.filter fun r => key r.base == k := by
  simp only [storedUnder, stored, List.filterMap_append, List.filter_append]
  cases hc : c.stored? options.maxSegments <;> simp [hc]

/-- **The bucket of a key** holds the stored routes with the key in the order of trying. -/
theorem lookup_run (k : String) : ((run { options } calls).buckets.lookup k).getD [] =
    options.priority.order (storedUnder options calls k) := by
  induction calls using List.reverseRecOn with
  | nil => exact (options.priority.order_nil).symm
  | append_singleton calls c ih =>
    have ho : (run { options } calls).options = options := run_options _ calls
    rw [run_append, call_buckets, ho, storedUnder_append]
    cases c.stored? options.maxSegments with
    | none => simpa [insert?] using ih
    | some r =>
      show ((Buckets.insert (run { options } calls).options.priority (key r.base) r
        (run { options } calls).buckets).lookup k).getD [] = _
      rw [Buckets.lookup_insert (ascending_run options calls), ho]
      by_cases hk : k = key r.base
      · subst hk
        rw [if_pos rfl, Option.getD_some, ih, Priority.insert_order]
        simp
      · have : (key r.base == k) = false := beq_eq_false_iff_ne.mpr (Ne.symm hk)
        rw [if_neg hk, ih]
        simp [this]

theorem notFound_eq (t : Table) : t.notFound =
    match t.error with
    | some r => .ok ⟨r, .notFound, [("status", "404")]⟩
    | none => .error .error := by
  unfold notFound errorRoute
  cases t.error with
  | none => rfl
  | some r =>
    have : Text.digits notFoundStatus = "404" := by decide
    simp only [this]
    rfl

theorem atRoot_eq (t : Table) : t.atRoot =
    match t.home with
    | some r => .ok ⟨r, .home, []⟩
    | none => .error .home := by
  unfold atRoot homeRoute
  cases t.home <;> rfl

/-- **A table answers from the calls that it got.** -/
theorem resolve_run (raw : String) : (run { options } calls).resolve raw =
    answer options calls (Path.normalize raw options.baseUrl) := by
  have ho : (run { options } calls).options = options := run_options _ calls
  have hh : (run { options } calls).home = lastHome calls := by rw [run_home]; exact Option.or_none
  have he : (run { options } calls).error = lastError calls := by
    rw [run_error]; exact Option.or_none
  simp only [resolve, answer, firstOf, ho, Path.firstSegment?_normalize,
    Path.normalize_eq_root_iff, Path.segmentsOf_normalize]
  cases hs : Path.segments raw options.baseUrl with
  | nil => rw [List.head?_nil, if_pos rfl, atRoot_eq, hh]
  | cons first rest =>
    have hb : ((run { options } calls).bucket? first).getD [] = candidates options calls first :=
      lookup_run options calls (key first)
    rw [List.head?_cons, if_neg (by simp), List.headD_cons, firstTaking_eq]
    dsimp only
    rw [hb]
    cases (candidates options calls first).findSome?
        (·.match? (Path.normalize raw options.baseUrl)) with
    | some m => rfl
    | none => exact (notFound_eq _).trans (by rw [he])

end Table

end PathRouter
