import PathRouter.Proofs.Json.RoundTrip
import PathRouter.Proofs.Route.Verify
import PathRouter.Route.Cached

/-!
# Exported routes are read again

A route is `Sound` if its base is its first segment, its pattern has a group for each parameter, and
the text that it keeps, if it keeps one, is read as the route. Every route that is compiled, made
for a slot or imported is sound (`sound_compile`, `sound_special`, `sound_imported`), and the
exported text of a sound route is read as the route, which then keeps the text
(`imported_exported`).
-/

namespace PathRouter

/-! ### Written and read again: callbacks and segments -/

theorem Callback.ofJson?_toJson (c : Callback) : Callback.ofJson? c.toJson = some c := by
  cases c <;> rfl

theorem Segment.ofJson?_toJson (s : Segment) : Segment.ofJson? s.toJson = some s := by
  obtain ⟨kind, name, type⟩ := s
  cases kind <;> cases type <;> rfl

theorem Json.writable_callback {n : Nat} (c : Callback) : Writable (n + 2) c.toJson := by
  cases c with
  | direct name => exact .record (by simp) (by simpa using Writable.text name)
  | aliased name => exact .record (by simp) (by simpa using Writable.text name)
  | method className methodName =>
    refine .record (by simp) ?_
    simp only [List.mem_singleton, forall_eq]
    refine .record (by simp) ?_
    simpa using ⟨Writable.text className, Writable.text methodName⟩

theorem Json.writable_segment {n : Nat} (s : Segment) : Writable (n + 1) s.toJson := by
  refine .record (by simp) ?_
  simpa using ⟨Writable.text _, Writable.text _, Writable.text _⟩

namespace Route

/-- What a route must be like to be read again from its exported text. -/
structure Sound (r : Route) : Prop where
  base : checkBase r.base r.segments = .ok ()
  groups : r.matcher.groupCount = r.paramNames.length
  source : ∀ blob, r.source = some blob → imported blob = .ok r

theorem segmentsOfJson?_toJson (ss : List Segment) :
    segmentsOfJson? (.list (ss.map Segment.toJson)) = some ss := by
  show (ss.map Segment.toJson).mapM Segment.ofJson? = some ss
  induction ss with
  | nil => rfl
  | cons s ss ih => simp [Segment.ofJson?_toJson, ih]

theorem writable_toJson {n : Nat} (r : Route) : Json.Writable (n + 3) r.toJson := by
  have hsegments : Json.Writable (n + 2) (.list (r.segments.map Segment.toJson)) := by
    refine .list ?_
    intro v hv
    obtain ⟨s, -, rfl⟩ := List.mem_map.mp hv
    exact Json.writable_segment s
  refine .record (by simp) ?_
  simp only [List.mem_cons, List.not_mem_nil, or_false, forall_eq_or_imp, forall_eq]
  exact ⟨.text _, Json.writable_callback _, .text _, hsegments, Json.writable_ofNat (by decide)⟩

variable {r : Route} {blob : String}

/-- The JSON form of a route is read as the route. -/
theorem ofJson_toJson (hb : checkBase r.base r.segments = .ok ())
    (hg : r.matcher.groupCount = r.paramNames.length) :
    ofJson r.toJson = .ok { r with source := none } := by
  have hv : Cache.requiredVersion [("base", .text r.base), ("callback", r.callback.toJson),
      ("matcher", .text r.matcher.text), ("segments", .list (r.segments.map Segment.toJson)),
      ("v", .ofNat exportVersion)] .v exportVersion = .ok () := rfl
  unfold ofJson
  simp only [bind_eq_ok]
  refine ⟨_, rfl, (), hv, _, rfl, _, rfl, r.segments, ?_, _, rfl, _, rfl, r.callback, ?_, (), hb,
    ?_⟩
  · rw [segmentsOfJson?_toJson]
    rfl
  · rw [Callback.ofJson?_toJson]
    rfl
  · rw [Matcher.ofText?_text]
    exact if_pos hg

/-- What is read from a JSON form. -/
theorem checks_of_ofJson {v : Json} (h : ofJson v = .ok r) :
    checkBase r.base r.segments = .ok () ∧ r.matcher.groupCount = r.paramNames.length := by
  unfold ofJson at h
  simp only [bind_eq_ok] at h
  obtain ⟨fields, -, -, -, base, -, -, -, segments, -, text, -, -, -, callback, -, u, hb, h⟩ := h
  split at h
  · simp at h
  · split_ifs at h with hg
    rw [Except.ok.injEq] at h
    subst h
    exact ⟨hb, hg⟩

/-- What is imported keeps the text, and its JSON form is that of a route. -/
theorem imported_eq_ok (h : imported blob = .ok r) : r.source = some blob ∧
    ∃ v s, Json.read? blob = some v ∧ ofJson v = .ok s ∧ r = { s with source := some blob } := by
  unfold imported at h
  simp only [bind_eq_ok, Except.ok.injEq] at h
  obtain ⟨v, hv, s, hs, rfl⟩ := h
  refine ⟨rfl, v, s, ?_, hs, rfl⟩
  unfold Cache.readText at hv
  cases hr : Json.read? blob with
  | none => rw [hr] at hv; simp at hv
  | some w => rw [hr, Except.ok.injEq] at hv; rw [hv]

theorem sound_imported (h : imported blob = .ok r) : r.Sound := by
  obtain ⟨hsource, v, s, -, hs, hr⟩ := imported_eq_ok h
  obtain ⟨hb, hg⟩ := checks_of_ofJson hs
  refine ⟨?_, ?_, ?_⟩
  · rw [hr]
    exact hb
  · rw [hr]
    exact hg
  · intro b hb
    rw [hsource, Option.some.injEq] at hb
    exact hb ▸ h

theorem sound_ofSegments {ss : List Segment} (callback : Callback)
    (hb : checkBase ((ss.head?.map Segment.name).getD "") ss = .ok ()) :
    (ofSegments ss callback).Sound := by
  refine ⟨hb, ?_, by simp [ofSegments]⟩
  show (Template.pattern ss).groups.foldl max 0 = (Template.paramNames ss).length
  rw [Template.groups_pattern, Template.foldl_max_range']

theorem sound_special (callback : Callback) : (special callback).Sound :=
  sound_ofSegments callback rfl

theorem sound_compile {limit : Nat} {template : String} {callback : Callback}
    (h : compile limit template callback = .ok r) : r.Sound := by
  obtain ⟨ss, hs, rfl⟩ := compile_eq_ok h
  obtain ⟨g, gs, rfl, hk⟩ := (Template.proper_of_read hs).first
  refine sound_ofSegments callback ?_
  exact if_pos ⟨hk, rfl⟩

/-- **The exported text of a sound route is read as the route**, which then keeps the text. -/
theorem imported_exported (h : r.Sound) :
    imported r.exported = .ok { r with source := some r.exported } := by
  cases hs : r.source with
  | some blob =>
    have he : r.exported = blob := by rw [exported, hs, Option.getD_some]
    rw [he, h.source blob hs, ← hs]
  | none =>
    have he : r.exported = r.toJson.compact := by rw [exported, hs, Option.getD_none]
    have hread : Cache.readText r.exported = .ok r.toJson := by
      rw [Cache.readText, he, Json.read?_compact (writable_toJson r)]
    unfold imported
    simp only [bind_eq_ok]
    exact ⟨_, hread, _, ofJson_toJson h.base h.groups, rfl⟩

end Route

end PathRouter
