import Mathlib.Algebra.Ring.Nat
import PathRouter.Proofs.Table.History
import PathRouter.Proofs.Table.Invariant

/-!
# What the buckets of a table hold

However a table came about, its buckets are well formed (`WellFormed`): the routes of a bucket have
its key and begin with their base, and there are as many routes as the size says. An answer comes
from a slot or from the bucket of the first segment (`resolve_cases`), so a route answers only paths
that begin with its base up to lower case, whatever its pattern takes (`Reachable.wellFormed`).
-/

namespace PathRouter

theorem Route.match?_eq_some {r : Route} {path : String} {m : RouteMatch}
    (h : r.match? path = some m) : m.route = r ∧ m.outcome = .matched := by
  obtain ⟨params, -, rfl⟩ := Option.map_eq_some_iff.mp h
  exact ⟨rfl, rfl⟩

namespace Table

variable {t : Table}

/-- What the buckets of a table are like. -/
structure WellFormed (t : Table) : Prop where
  ascending : t.buckets.Ascending
  nonempty : ∀ b ∈ t.buckets, b.2 ≠ []
  keys : ∀ b ∈ t.buckets, ∀ r ∈ b.2, Text.lowercase r.base = b.1
  lengths : ∀ b ∈ t.buckets, ∀ r ∈ b.2,
    1 ≤ r.segments.length ∧ r.segments.length ≤ t.options.maxSegments
  bases : ∀ b ∈ t.buckets, ∀ r ∈ b.2,
    ∃ s, r.segments.head? = some s ∧ s.kind = .literal ∧ s.name = r.base
  size : t.size = (t.buckets.map fun b => b.2.length).sum
  empty : t.isEmpty ↔ t.size = 0

/-- Whether a table refuses a call. -/
def Refuses (t : Table) : Call → Prop
  | .addRoute template callback => ∃ e, t.addRoute template callback = .error e
  | .addCached blob => ∃ e, t.addCached blob = .error e
  | .setHome _ | .setError _ => False

/-! ### Single routes and calls -/

/-- A base that passes the check is the first segment, if there is one. -/
theorem head?_of_checkBase {base : String} {segments : List Segment}
    (h : Route.checkBase base segments = .ok ()) (hne : 1 ≤ segments.length) :
    ∃ s, segments.head? = some s ∧ s.kind = .literal ∧ s.name = base := by
  cases segments with
  | nil => simp at hne
  | cons s ss =>
    rw [Route.checkBase] at h
    split_ifs at h with hs
    exact ⟨s, rfl, hs⟩

/-- A call that is refused leaves the table as it was. -/
theorem call_of_refuses {c : Call} (h : t.Refuses c) : t.call c = t := by
  cases c with
  | addRoute template callback =>
    obtain ⟨e, he⟩ := h
    rw [call, he]
  | addCached blob =>
    obtain ⟨e, he⟩ := h
    rw [call, he]
  | setHome callback => exact h.elim
  | setError callback => exact h.elim

/-- A call makes a table larger by the route that it stores, if it stores one. -/
theorem size_call (t : Table) (c : Call) :
    (t.call c).size = t.size + (c.stored? t.options.maxSegments).toList.length := by
  rw [size, call_buckets]
  cases c.stored? t.options.maxSegments with
  | none => rfl
  | some r => exact Buckets.length_routes_insert

/-! ### Answers -/

/-- **Where an answer comes from**: the home route, the first route in the bucket of the first
segment that takes the path, or the error route. -/
theorem resolve_cases_first {raw : String} {m : RouteMatch} (h : t.resolve raw = .ok m) :
    (m.outcome = .home ∧ t.home = some m.route ∧ m.params = []) ∨
    (∃ first, Path.firstSegment? (Path.normalize raw t.options.baseUrl) = some first ∧
      ((t.bucket? first).getD []).findSome? (·.match? (Path.normalize raw t.options.baseUrl)) =
        some m) ∨
    m.outcome = .notFound ∧ t.error = some m.route ∧ m.params = [("status", "404")] := by
  unfold resolve at h
  dsimp only at h
  split at h
  · rw [atRoot_eq] at h
    split at h
    · next r hr =>
      rw [Except.ok.injEq] at h
      subst h
      exact Or.inl ⟨rfl, hr, rfl⟩
    · simp at h
  · next first hfirst =>
    split at h
    · next m' hm =>
      rw [Except.ok.injEq] at h
      exact Or.inr (Or.inl ⟨first, hfirst, h ▸ hm⟩)
    · rw [notFound_eq] at h
      split at h
      · next r hr =>
        rw [Except.ok.injEq] at h
        subst h
        exact Or.inr (Or.inr ⟨rfl, hr, rfl⟩)
      · simp at h

/-- An answer that is not from a slot is a match of a route in the bucket of the first segment. -/
theorem resolve_cases {raw : String} {m : RouteMatch} (h : t.resolve raw = .ok m) :
    (m.outcome = .home ∧ t.home = some m.route ∧ m.params = []) ∨
    (∃ first, Path.firstSegment? (Path.normalize raw t.options.baseUrl) = some first ∧
      m.route ∈ (t.bucket? first).getD [] ∧
      m.route.match? (Path.normalize raw t.options.baseUrl) = some m) ∨
    m.outcome = .notFound ∧ t.error = some m.route ∧ m.params = [("status", "404")] := by
  rcases resolve_cases_first h with hhome | ⟨first, hfirst, hm⟩ | herror
  · exact Or.inl hhome
  · obtain ⟨r, hr, hm⟩ := List.exists_of_findSome?_eq_some hm
    obtain ⟨rfl, -⟩ := Route.match?_eq_some hm
    exact Or.inr (Or.inl ⟨first, hfirst, hr, hm⟩)
  · exact Or.inr (Or.inr herror)

theorem mem_routes_of_bucket? {base : String} {r : Route} (h : r ∈ (t.bucket? base).getD []) :
    ∃ b ∈ t.buckets, b.1 = key base ∧ r ∈ b.2 := by
  cases hb : t.bucket? base with
  | none => simp [hb] at h
  | some rs =>
    rw [hb, Option.getD_some] at h
    exact ⟨_, Assoc.mem_of_lookup hb, rfl, h⟩

/-! ### Reachable tables -/

theorem wellFormed_of_sound (h : t.Sound) : t.WellFormed where
  ascending := h.filed.ascending
  nonempty := h.filed.nonempty
  keys := h.filed.keys
  lengths b hb r hr := (checked_eq_ok_iff.mp (h.routes b hb r hr).2).2
  bases b hb r hr := by
    obtain ⟨hr, hc⟩ := h.routes b hb r hr
    obtain ⟨-, hlength, -⟩ := checked_eq_ok_iff.mp hc
    exact head?_of_checkBase hr.base hlength
  size := List.length_flatMap
  empty := by
    constructor
    · intro he
      rw [size, List.isEmpty_iff.mp he]
      rfl
    · intro hs
      rw [isEmpty, List.isEmpty_iff, List.eq_nil_iff_forall_not_mem]
      intro b hb
      -- a bucket that is there holds a route
      obtain ⟨r, rs, hrs⟩ := List.exists_cons_of_ne_nil (h.filed.nonempty b hb)
      have hmem : r ∈ t.buckets.routes := Buckets.mem_routes.mpr ⟨b, hb, by simp [hrs]⟩
      rw [List.length_eq_zero_iff.mp hs] at hmem
      simp at hmem

/-- **Every reachable table is well formed**: a call that is refused leaves it as it was, a route
that is stored makes it larger by one, and a path is only answered by a stored route that begins
with the first segment of the path up to lower case. -/
theorem Reachable.wellFormed (h : Reachable t) :
    t.WellFormed ∧ (∀ c, t.Refuses c → t.call c = t) ∧
    (∀ c, (t.call c).size = t.size + (c.stored? t.options.maxSegments).toList.length) ∧
    ∀ raw m, t.resolve raw = .ok m → m.outcome = .matched →
      ∃ first, Path.firstSegment? (Path.normalize raw t.options.baseUrl) = some first ∧
        m.route ∈ t.buckets.routes ∧ Text.lowercase m.route.base = Text.lowercase first := by
  refine ⟨wellFormed_of_sound h.sound, fun c hc => call_of_refuses hc, size_call t, ?_⟩
  intro raw m hm ho
  rcases resolve_cases hm with ⟨he, -⟩ | ⟨first, hfirst, hr, -⟩ | ⟨he, -⟩
  · simp [ho] at he
  · obtain ⟨b, hb, hk, hr⟩ := mem_routes_of_bucket? hr
    refine ⟨first, hfirst, Buckets.mem_routes.mpr ⟨b, hb, hr⟩, ?_⟩
    exact (h.sound.filed.keys b hb _ hr).trans hk
  · simp [ho] at he

/-- The exported text of a route whose pattern takes every path. -/
def takesAll : String :=
  "\x7b\"v\":1,\"base\":\"shop\",\"segments\":[\x7b\"kind\":\"static\",\"name\":\"shop\"\x7d]," ++
  "\"matcher\":\"\",\"callback\":\x7b\"direct\":\"show\"\x7d\x7d"

/-- A route whose pattern takes every path answers no other path than those with its base. -/
theorem wellFormed_takesAll :
    (run {} [.setError (.direct "error"), .addCached takesAll]).WellFormed ∧
    (run {} [.setError (.direct "error"), .addCached takesAll]).size = 1 ∧
    ∀ m, (run {} [.setError (.direct "error"), .addCached takesAll]).resolve "/blog" = .ok m →
      m.outcome ≠ .matched := by
  have hreach : Reachable (run {} [.setError (.direct "error"), .addCached takesAll]) :=
    (Reachable.new {}).run _
  have hbases : (run {} [.setError (.direct "error"), .addCached takesAll]).buckets.routes.map
      Route.base = ["shop"] := by decide +kernel
  obtain ⟨hw, -, -, hm⟩ := hreach.wellFormed
  refine ⟨hw, ?_, ?_⟩
  · have hlength := congrArg List.length hbases
    rwa [List.length_map] at hlength
  · intro m hres ho
    obtain ⟨first, hfirst, hr, hb⟩ := hm "/blog" m hres ho
    have hbase : m.route.base ∈ ["shop"] := hbases ▸ List.mem_map_of_mem hr
    have hblog : Path.firstSegment? (Path.normalize "/blog" none) = some "blog" := by decide
    rw [List.mem_singleton] at hbase
    rw [run_options] at hfirst
    obtain rfl : "blog" = first := Option.some.inj (hblog.symm.trans hfirst)
    rw [hbase] at hb
    exact absurd hb (by decide)

end Table

end PathRouter
