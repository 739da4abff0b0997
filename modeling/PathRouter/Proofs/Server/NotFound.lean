import PathRouter.Proofs.Json.RoundTrip
import PathRouter.Proofs.Table.Shape
import PathRouter.Server.Response

/-!
# The status in the error answer

The handler `not_found` gives its answer the status of the match, and names a status in the body. It
works them out apart: an answer only takes a status from 100 to 999 and has the one of what is not
found otherwise, and the body names any number below `2 ^ 16`. So the two agree if and only if the
parameter gives no number or one that an answer can take (`namesStatus_notFound_iff`). They agree on
the matches that a table gives for the root path and for what no route takes, but not on every match
of a route that binds the parameter itself (`notFound_names_other_status`).
-/

namespace PathRouter

namespace RouteMatch

/-- The status of a match is below `2 ^ 16`. -/
theorem status?_lt {m : RouteMatch} {s : Nat} (h : m.status? = some s) : s < 2 ^ 16 := by
  obtain ⟨text, -, hs⟩ := Option.bind_eq_some_iff.mp h
  exact (Text.unsigned?_eq_some_iff.mp hs).2

/-- A match without parameters has no status. -/
theorem status?_of_params_nil {m : RouteMatch} (h : m.params = []) : m.status? = none := by
  rw [status?, param?, h]
  rfl

/-- A match whose only parameter is that of the status has the number that it writes. -/
theorem status?_of_params_singleton {m : RouteMatch} {text : String}
    (h : m.params = [("status", text)]) : m.status? = Text.unsigned? 16 text := by
  rw [status?, param?, h]
  rfl

end RouteMatch

namespace Response

/-- The status that the body of an answer names: the number in the field `status` of its record. -/
def bodyStatus? (r : Response) : Option Nat :=
  (Json.read? r.body).bind fun v => (v.field? "status").bind Json.asUnsigned?

/-- Whether the body of an answer names the status that the answer has. -/
def NamesStatus (r : Response) : Prop := r.bodyStatus? = some r.status

variable {m : RouteMatch}

/-- **What the body of the error names**: the status of the match, or that of what is not found. -/
theorem bodyStatus?_notFound (m : RouteMatch) :
    (notFound m).bodyStatus? = some (m.status?.getD Table.notFoundStatus) := by
  have hlt : m.status?.getD Table.notFoundStatus < 2 ^ 64 := by
    cases hs : m.status? with
    | none => decide
    | some s =>
      have hs := RouteMatch.status?_lt hs
      rw [Option.getD_some]
      omega
  have hread : Json.read? (notFound m).body = some (.record
      [("error", .text "no route matched"),
        ("status", .ofNat (m.status?.getD Table.notFoundStatus))]) := by
    refine Json.read?_compact (.record (by simp) ?_)
    simpa using ⟨Json.Writable.text _, Json.writable_ofNat hlt⟩
  rw [bodyStatus?, hread]
  exact Json.asUnsigned?_ofNat hlt

/-- Without a status the error has that of what is not found, in the body too. -/
theorem namesStatus_notFound_of_none (h : m.status? = none) : (notFound m).NamesStatus := by
  rw [NamesStatus, bodyStatus?_notFound, h]
  show some Table.notFoundStatus = some (notFoundStatus m)
  rw [notFoundStatus, h]

/-- A status is named by the answer that has it if an answer can have it. -/
theorem namesStatus_notFound_of_some {s : Nat} (h : m.status? = some s) :
    (notFound m).NamesStatus ↔ 100 ≤ s ∧ s ≤ 999 := by
  have hstatus : (notFound m).status = if 100 ≤ s ∧ s ≤ 999 then s else Table.notFoundStatus := by
    show notFoundStatus m = _
    rw [notFoundStatus, h]
  rw [NamesStatus, bodyStatus?_notFound, h, hstatus, Option.getD_some, Option.some.injEq]
  constructor
  · intro hs
    by_contra hrange
    -- a status that is replaced by 404 is not 404 itself
    rw [if_neg hrange] at hs
    exact hrange (hs ▸ by decide)
  · intro hrange
    rw [if_pos hrange]

/-- **When the error names the status that it has**: if and only if the match gives no status, or
one that an answer can have. The matches that a table gives for the root path and for what no route
takes do. -/
theorem namesStatus_notFound_iff (m : RouteMatch) :
    ((notFound m).NamesStatus ↔ ∀ s, m.status? = some s → 100 ≤ s ∧ s ≤ 999) ∧
    ∀ (t : Table) (raw : String), t.resolve raw = .ok m → m.outcome ≠ .matched →
      (notFound m).NamesStatus := by
  constructor
  · cases hs : m.status? with
    | none => simpa using namesStatus_notFound_of_none hs
    | some s => simpa using namesStatus_notFound_of_some hs
  · intro t raw hm ho
    rcases Table.resolve_cases hm with ⟨-, -, hp⟩ | ⟨first, -, -, hmatch⟩ | ⟨-, -, hp⟩
    · exact namesStatus_notFound_of_none (RouteMatch.status?_of_params_nil hp)
    · exact absurd (Route.match?_eq_some hmatch).2 ho
    · have hs : m.status? = some 404 :=
        (RouteMatch.status?_of_params_singleton hp).trans (by decide +kernel)
      exact (namesStatus_notFound_of_some hs).mpr (by decide)

/-- A table with a route that binds a status and runs the handler for errors. -/
def errTable : Table :=
  Table.run {} [.setHome (.direct "home"), .setError (.direct "not_found"),
    .addRoute "err/$status" (.direct "not_found")]

/-- A match of that table that the handler answers, from its evaluation. -/
theorem exists_resolve_errTable {raw text : String} {outcome : Outcome}
    (h : (errTable.resolve raw).toOption.map (fun m => (m.outcome, m.params, m.route.callback)) =
      some (outcome, [("status", text)], .direct "not_found")) :
    ∃ m, errTable.resolve raw = .ok m ∧ m.outcome = outcome ∧
      m.status? = Text.unsigned? 16 text ∧ m.fire (builtin errTable) [] = .ok (notFound m) := by
  obtain ⟨m, hm, hmatch⟩ := Option.map_eq_some_iff.mp h
  simp only [Prod.mk.injEq] at hmatch
  obtain ⟨ho, hparams, hcallback⟩ := hmatch
  refine ⟨m, Call.toOption_eq_some.mp hm, ho, RouteMatch.status?_of_params_singleton hparams, ?_⟩
  rw [RouteMatch.fire, hcallback]
  rfl

/-- A status that is bound with a sign, and the one of what no route takes. -/
theorem namesStatus_notFound_teapot : ∃ m n,
    errTable.resolve "/err/+418" = .ok m ∧ m.status? = some 418 ∧ (notFound m).NamesStatus ∧
    errTable.resolve "/nowhere" = .ok n ∧ n.outcome = .notFound ∧ (notFound n).NamesStatus := by
  obtain ⟨m, hm, -, hs, -⟩ :=
    @exists_resolve_errTable "/err/+418" "+418" .matched (by decide +kernel)
  obtain ⟨n, hn, ho, -, -⟩ :=
    @exists_resolve_errTable "/nowhere" "404" .notFound (by decide +kernel)
  have hs : m.status? = some 418 := hs.trans (by decide +kernel)
  have hrange : ∀ s, m.status? = some s → 100 ≤ s ∧ s ≤ 999 := by simp [hs]
  have hunmatched : n.outcome ≠ .matched := by simp [ho]
  exact ⟨m, n, hm, hs, (namesStatus_notFound_iff m).1.mpr hrange, hn, ho,
    (namesStatus_notFound_iff n).2 errTable "/nowhere" hn hunmatched⟩

/-- **An error can name another status than it has**: the answer to a match with the status 99 has
404, and 99 in its body. -/
theorem notFound_names_other_status : ∃ m answer, errTable.resolve "/err/99" = .ok m ∧
    m.fire (builtin errTable) [] = .ok answer ∧ answer.status = 404 ∧
    answer.bodyStatus? = some 99 ∧ ¬ answer.NamesStatus := by
  obtain ⟨m, hm, -, hs, hfire⟩ :=
    @exists_resolve_errTable "/err/99" "99" .matched (by decide +kernel)
  have hs : m.status? = some 99 := hs.trans (by decide +kernel)
  have hstatus : (notFound m).status = 404 := by
    show notFoundStatus m = 404
    rw [notFoundStatus, hs]
    rfl
  have hbody : (notFound m).bodyStatus? = some 99 := by
    rw [bodyStatus?_notFound, hs]
    rfl
  refine ⟨m, notFound m, hm, hfire, hstatus, hbody, ?_⟩
  rw [NamesStatus, hstatus, hbody]
  decide

end Response

end PathRouter
