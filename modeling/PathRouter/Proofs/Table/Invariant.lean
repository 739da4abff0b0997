import PathRouter.Proofs.Route.Cached
import PathRouter.Proofs.Table.Run

/-!
# What every reachable table is like

The buckets of a table are changed in one way only: a route that is compiled or imported is put
under its key. So what holds of no buckets and is kept by this holds of the buckets of every
reachable table (`Reachable.buckets_induction`): they are filed (`Buckets.Filed`), and their routes
are sound and within the limit. The routes of the slots are sound too (`Reachable.sound`).
-/

namespace PathRouter

namespace Buckets

/-- Buckets in order: the keys ascend, no bucket is empty, and each holds routes with its key. -/
structure Filed (bs : Buckets) : Prop where
  ascending : bs.Ascending
  nonempty : ∀ b ∈ bs, b.2 ≠ []
  keys : ∀ b ∈ bs, ∀ r ∈ b.2, Table.key r.base = b.1

theorem filed_nil : Filed [] := ⟨List.Pairwise.nil, by simp, by simp⟩

theorem Filed.tail {b : String × List Route} {bs : Buckets} (h : Filed (b :: bs)) : bs.Filed :=
  ⟨(List.pairwise_cons.mp h.ascending).2, fun c hc => h.nonempty c (List.mem_cons_of_mem _ hc),
    fun c hc => h.keys c (List.mem_cons_of_mem _ hc)⟩

theorem Filed.insert {bs : Buckets} (h : bs.Filed) (priority : Priority) (r : Route) :
    (bs.insert priority (Table.key r.base) r).Filed :=
  ⟨ascending_insert h.ascending, ne_nil_of_mem_insert h.nonempty,
    forall_insert (P := fun k s => Table.key s.base = k) h.keys rfl⟩

end Buckets

/-- Whether a route can come into a bucket of a table with a limit. -/
def Route.Storable (limit : Nat) (r : Route) : Prop :=
  (∃ template callback, Route.compile limit template callback = .ok r) ∨
    ∃ blob, Table.importRoute limit blob = .ok r

/-- Whether a route can come into a slot of a table. -/
def Route.Slotted (r : Route) : Prop :=
  (∃ callback, r = .special callback) ∨ ∃ blob, Route.imported blob = .ok r

theorem Call.storable_of_stored? {limit : Nat} {c : Call} {r : Route}
    (h : c.stored? limit = some r) : r.Storable limit := by
  rcases stored?_cases h with ⟨template, callback, -, hc⟩ | ⟨blob, -, hb⟩
  · exact Or.inl ⟨template, callback, hc⟩
  · exact Or.inr ⟨blob, hb⟩

namespace Table

/-- **A route passes the check** if it has segments, and not more than the limit. -/
theorem checked_eq_ok_iff {limit : Nat} {r s : Route} : checked limit r = .ok s ↔
    r = s ∧ 1 ≤ r.segments.length ∧ r.segments.length ≤ limit := by
  unfold checked
  split_ifs with he hl
  · simp [List.isEmpty_iff.mp he]
  · simp only [false_iff]
    omega
  · have hne : r.segments ≠ [] := by simpa using he
    rw [Except.ok.injEq, and_iff_left ⟨List.length_pos_iff.mpr hne, Nat.not_lt.mp hl⟩]

theorem checked_of_lt {limit : Nat} {r : Route} (h : limit < r.segments.length) :
    checked limit r = .error (.malformed .segments (.tooManySegments r.segments.length limit)) := by
  have hne : r.segments ≠ [] := List.length_pos_iff.mp (by omega)
  rw [checked, if_neg (by simpa using hne), if_pos h]

/-- What a route in a bucket of a table with a limit is like. -/
theorem sound_of_storable {limit : Nat} {r : Route} (h : r.Storable limit) :
    r.Sound ∧ checked limit r = .ok r := by
  rcases h with ⟨template, callback, h⟩ | ⟨blob, h⟩
  · refine ⟨Route.sound_compile h, ?_⟩
    obtain ⟨ss, hs, rfl⟩ := Route.compile_eq_ok h
    obtain ⟨-, hne, hlen⟩ := Template.readPieces_of_read hs
    exact checked_eq_ok_iff.mpr ⟨rfl, List.length_pos_iff.mpr hne, hlen⟩
  · unfold importRoute at h
    simp only [bind_eq_ok] at h
    obtain ⟨s, hs, hc⟩ := h
    obtain ⟨rfl, -⟩ := checked_eq_ok_iff.mp hc
    exact ⟨Route.sound_imported hs, hc⟩

theorem sound_of_slotted {r : Route} (h : r.Slotted) : r.Sound := by
  rcases h with ⟨callback, rfl⟩ | ⟨blob, h⟩
  · exact Route.sound_special callback
  · exact Route.sound_imported h

/-! ### Loaded tables -/

variable {t u : Table}

/-- What is appended comes from exported texts, one route after another. -/
theorem appendAll_induction {P : Table → Prop}
    (step : ∀ t r, P t → r.Storable t.options.maxSegments → P (t.append r)) :
    ∀ {blobs : List String} {t u : Table}, P t → appendAll t blobs = .ok u → P u
  | [], _, _, ht, h => by
    rw [appendAll, Except.ok.injEq] at h
    exact h ▸ ht
  | blob :: blobs, t, u, ht, h => by
    rw [appendAll] at h
    obtain ⟨r, hr, h⟩ := bind_eq_ok.mp h
    exact appendAll_induction step (step t r ht (Or.inr ⟨blob, hr⟩)) h

/-- A loaded table has the routes of a document in its buckets and its slots. -/
theorem imported_eq_ok {options : TableOptions} {blob : String}
    (h : imported options blob = .ok t) : ∃ d u home error,
      CacheDocument.decode blob = .ok d ∧ appendAll { options } d.routes = .ok u ∧
      Route.imported d.home = .ok home ∧ Route.imported d.error = .ok error ∧
      t = { u with home := some home, error := some error } := by
  unfold imported ofDocument at h
  simp only [bind_eq_ok, Except.ok.injEq] at h
  obtain ⟨d, hd, u, hu, home, hh, error, he, rfl⟩ := h
  exact ⟨d, u, home, error, hd, hu, hh, he, rfl⟩

theorem options_appendAll {options : TableOptions} {blobs : List String}
    (h : appendAll { options } blobs = .ok u) : u.options = options :=
  appendAll_induction (P := fun t => t.options = options) (fun _ _ ht _ => ht) rfl h

/-! ### Reachable tables -/

/-- **What insertions keep holds of the buckets of a reachable table.** -/
theorem Reachable.buckets_induction {P : Buckets → Prop} (h : Reachable t) (nil : P [])
    (step : ∀ bs priority r, P bs → r.Storable t.options.maxSegments →
      P (bs.insert priority (key r.base) r)) : P t.buckets := by
  induction h with
  | new options => exact nil
  | @loaded options blob t h =>
    obtain ⟨d, u, home, error, -, hu, -, -, rfl⟩ := imported_eq_ok h
    have ho := options_appendAll hu
    -- loaded routes are checked against the limit of the options, which stay as they are
    have hP : P u.buckets ∧ u.options = options := by
      refine appendAll_induction (P := fun t => P t.buckets ∧ t.options = options) ?_ ⟨nil, rfl⟩ hu
      rintro s r ⟨hs, hso⟩ hr
      refine ⟨step s.buckets .firstWins r hs ?_, hso⟩
      rw [hso] at hr
      show r.Storable u.options.maxSegments
      rwa [ho]
    exact hP.1
  | @call t _ c ih =>
    rw [call_options] at step
    have ht := ih step
    rw [call_buckets]
    cases hc : c.stored? t.options.maxSegments with
    | none => exact ht
    | some r => exact step t.buckets t.options.priority r ht (Call.storable_of_stored? hc)

/-- What a slot holds was set by a call or was there before. -/
theorem slotted_or {o p : Option Route} (ho : ∀ r, o = some r → ∃ callback, r = .special callback)
    (hp : ∀ r, p = some r → r.Slotted) : ∀ r, o.or p = some r → r.Slotted := by
  intro r hr
  rcases Option.or_eq_some_iff.mp hr with hr | ⟨-, hr⟩
  · exact Or.inl (ho r hr)
  · exact hp r hr

theorem Reachable.slotted (h : Reachable t) :
    (∀ r, t.home = some r → r.Slotted) ∧ ∀ r, t.error = some r → r.Slotted := by
  induction h with
  | new options => exact ⟨by simp, by simp⟩
  | loaded h =>
    obtain ⟨d, u, home, error, -, -, hh, he, rfl⟩ := imported_eq_ok h
    constructor
    · intro r hr
      exact Or.inr ⟨d.home, Option.some.inj hr ▸ hh⟩
    · intro r hr
      exact Or.inr ⟨d.error, Option.some.inj hr ▸ he⟩
  | @call t _ c ih =>
    rw [call_home, call_error]
    exact ⟨slotted_or (fun r hr => Call.special_of_home? hr) ih.1,
      slotted_or (fun r hr => Call.special_of_error? hr) ih.2⟩

/-- A table whose buckets are in order and whose routes can be read again from their texts. -/
structure Sound (t : Table) : Prop where
  filed : t.buckets.Filed
  routes : ∀ b ∈ t.buckets, ∀ r ∈ b.2, r.Sound ∧ checked t.options.maxSegments r = .ok r
  home : ∀ r, t.home = some r → r.Sound
  error : ∀ r, t.error = some r → r.Sound

/-- **Every reachable table is sound.** -/
theorem Reachable.sound (h : Reachable t) : t.Sound := by
  refine ⟨?_, ?_, ?_, ?_⟩
  · exact h.buckets_induction Buckets.filed_nil fun bs priority r hbs _ => hbs.insert priority r
  · refine h.buckets_induction (P := fun bs => ∀ b ∈ bs, ∀ r ∈ b.2, r.Sound ∧
      checked t.options.maxSegments r = .ok r) (by simp) ?_
    intro bs priority r hbs hr
    exact Buckets.forall_insert (P := fun _ s => s.Sound ∧ checked t.options.maxSegments s = .ok s)
      hbs (sound_of_storable hr)
  · exact fun r hr => sound_of_slotted (h.slotted.1 r hr)
  · exact fun r hr => sound_of_slotted (h.slotted.2 r hr)

end Table

end PathRouter
