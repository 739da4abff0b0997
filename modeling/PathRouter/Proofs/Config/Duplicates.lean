import PathRouter.Proofs.Config.Check
import PathRouter.Proofs.Route.Alike

/-!
# Which routes are reported as duplicates

The check of a configuration compares the texts of templates with their ASCII letters lowered
(`likeness`). These texts are equal if and only if the segments are alike one by one up to the case
of ASCII letters (`likeness_eq_iff`), since such a text is that of the segments with lowered names.
What the check of one template does to the texts that were seen is said once
(`mem_seen_templateFaults`), and from it what is reported of all of them: a route is reported if an
earlier one has the same text (`duplicateRoute_mem_faults_iff`). So the case of other letters keeps
routes apart here (`umlauts_pass`), although buckets and matchers do not tell them apart.
-/

namespace PathRouter

open Text (asciiLowercase)

namespace Config

open Segment (Alike mapName)

variable {ss ts : List Segment}

/-- The text that the check compares is that of the segments with lowered names. -/
theorem likeness_eq (ss : List Segment) :
    likeness ss = Template.text (ss.map (mapName asciiLowercase)) := by
  by_cases hss : ss = []
  · subst hss
    rfl
  have hmap : ss.map (mapName asciiLowercase) ≠ [] := by simpa using hss
  have htexts : asciiLowercase ∘ Segment.text = Segment.text ∘ mapName asciiLowercase :=
    funext Segment.asciiLowercase_text
  rw [likeness, Template.text_of_ne_nil hss, Template.text_of_ne_nil hmap,
    Text.asciiLowercase_intercalate, List.map_map, List.map_map, htexts]
  exact congrArg (String.intercalate · _) (by decide)

/-- **Likenesses are equal** if and only if the segments are alike up to the case of ASCII
letters. -/
theorem likeness_eq_iff (hs : ∀ s ∈ ss, s.Writable) (ht : ∀ t ∈ ts, t.Writable) :
    likeness ss = likeness ts ↔ List.Forall₂ (Alike asciiLowercase) ss ts := by
  rw [← Segment.map_mapName_eq_iff, likeness_eq, likeness_eq]
  refine ⟨Template.text_inj ?_ ?_, congrArg _⟩
  · exact List.forall_mem_map.mpr fun s h => Segment.writable_mapName (hs s h)
  · exact List.forall_mem_map.mpr fun t h => Segment.writable_mapName (ht t h)

/-! ### The check of the routes -/

/-- The text that the check compares a template by, if the template is read. -/
def likeness? (limit : Nat) (path : String) : Option String :=
  (Template.read limit path).toOption.map likeness

variable {limit index j : Nat} {seen : List String} {path like : String}

/-- What is read does not stand for the root path, and there is a limit. -/
theorem not_skipped_of_read (h : Template.read limit path = .ok ss) :
    (Template.isRoot path || limit == 0) = false := by
  have hlen : ss.length ≠ 0 := by
    obtain ⟨s, rest, rfl, -⟩ := (Template.proper_of_read h).first
    simp
  have hroot : ¬ Template.isRoot path := fun hr => hlen <| by
    rw [Template.length_of_read h, Template.segments_of_isRoot hr, List.length_nil]
  have hlimit : limit ≠ 0 := by
    have := (Template.readPieces_of_read h).2.2
    omega
  simp [hroot, hlimit]

theorem templateFaults_of_some {t : String} (h : likeness? limit path = some t) :
    templateFaults limit index seen path =
      if t ∈ seen then ([.duplicateRoute index t], seen) else ([], t :: seen) := by
  obtain ⟨ss, hs, rfl⟩ := Option.map_eq_some_iff.mp h
  have hread := Call.toOption_eq_some.mp hs
  rw [templateFaults, not_skipped_of_read hread, hread]
  simp

theorem templateFaults_of_none (h : likeness? limit path = none) :
    (templateFaults limit index seen path).2 = seen ∧
      ∀ t, .duplicateRoute j t ∉ (templateFaults limit index seen path).1 := by
  unfold templateFaults
  split_ifs
  · simp
  · cases hread : Template.read limit path with
    | error e => simp
    | ok ss =>
      rw [likeness?, hread] at h
      cases h

/-- What the check of one template reports as a duplicate: a text that was seen. -/
theorem mem_templateFaults_iff {t : String} :
    .duplicateRoute j t ∈ (templateFaults limit index seen path).1 ↔
      j = index ∧ likeness? limit path = some t ∧ t ∈ seen := by
  cases h : likeness? limit path with
  | none => simp [(templateFaults_of_none h).2]
  | some u =>
    rw [templateFaults_of_some h]
    split_ifs with hu
    · simp only [List.mem_singleton, ConfigFault.duplicateRoute.injEq, Option.some.injEq]
      constructor
      · rintro ⟨rfl, rfl⟩
        exact ⟨rfl, rfl, hu⟩
      · rintro ⟨rfl, rfl, -⟩
        exact ⟨rfl, rfl⟩
    · refine iff_of_false (by simp) ?_
      rintro ⟨-, hut, ht⟩
      exact hu (Option.some.inj hut ▸ ht)

/-- What was seen after the check of one template: its text, too. -/
theorem mem_seen_templateFaults {t : String} :
    t ∈ (templateFaults limit index seen path).2 ↔ likeness? limit path = some t ∨ t ∈ seen := by
  cases h : likeness? limit path with
  | none => simp [(templateFaults_of_none (j := 0) h).1]
  | some u =>
    rw [templateFaults_of_some h, Option.some.injEq]
    split_ifs with hu
    · exact ⟨Or.inr, fun ht => ht.elim (fun he => he ▸ hu) id⟩
    · rw [List.mem_cons, eq_comm]

/-- **What the check of the routes reports as duplicates**: a text that was seen before the routes or
is that of an earlier one. -/
theorem duplicateRoute_mem_routeFaults_iff {t : String} :
    ∀ {rs : List RouteDefinition} {index : Nat} {seen : List String},
      .duplicateRoute j t ∈ routeFaults limit index seen rs ↔
        ∃ k, j = index + k ∧ (rs[k]?).bind (fun d => likeness? limit d.path) = some t ∧
          (t ∈ seen ∨ ∃ i < k, (rs[i]?).bind (fun d => likeness? limit d.path) = some t)
  | [], index, seen => by simp [routeFaults]
  | r :: rs, index, seen => by
    have hblank : .duplicateRoute j t ∉
        (if isBlankText r.callback then [ConfigFault.emptyCallback index] else []) := by
      split_ifs <;> simp
    rw [routeFaults, List.mem_append, List.mem_append, or_iff_right hblank, mem_templateFaults_iff,
      duplicateRoute_mem_routeFaults_iff]
    simp only [mem_seen_templateFaults]
    constructor
    · rintro (⟨rfl, hr, ht⟩ | ⟨k, rfl, hk, (hr | ht) | ⟨i, hi, ht⟩⟩)
      · exact ⟨0, rfl, hr, Or.inl ht⟩
      · exact ⟨k + 1, by omega, hk, Or.inr ⟨0, by omega, hr⟩⟩
      · exact ⟨k + 1, by omega, hk, Or.inl ht⟩
      · exact ⟨k + 1, by omega, hk, Or.inr ⟨i + 1, by omega, ht⟩⟩
    · rintro ⟨k, rfl, hk, hseen⟩
      cases k with
      | zero =>
        rcases hseen with ht | ⟨i, hi, -⟩
        · exact Or.inl ⟨rfl, hk, ht⟩
        · exact absurd hi (by omega)
      | succ k =>
        refine Or.inr ⟨k, by omega, hk, ?_⟩
        rcases hseen with ht | ⟨i, hi, ht⟩
        · exact Or.inl (Or.inr ht)
        · cases i with
          | zero => exact Or.inl (Or.inl ht)
          | succ i => exact Or.inr ⟨i, by omega, ht⟩

/-! ### Reported duplicates -/

variable (c : Config)

/-- The segments of the route with a number, if there is one and its template is read. -/
def segments? (n : Nat) : Option (List Segment) :=
  (c.routes[n]?).bind fun d => (Template.read c.router.maxSegments d.path).toOption

variable {c} in
theorem writable_of_segments? {n : Nat} (h : c.segments? n = some ss) : ∀ s ∈ ss, s.Writable := by
  obtain ⟨d, -, hd⟩ := Option.bind_eq_some_iff.mp h
  exact (Template.valid_of_read (Call.toOption_eq_some.mp hd)).writable

theorem bind_likeness? (n : Nat) :
    (c.routes[n]?).bind (fun d => likeness? c.router.maxSegments d.path) =
      (c.segments? n).map likeness := by
  rw [segments?, Option.map_bind]
  rfl

/-- **Which route is reported as a duplicate**: one that is alike an earlier one up to the case of
ASCII letters. -/
theorem duplicateRoute_mem_faults_iff {t : String} : .duplicateRoute j t ∈ c.faults ↔
    ∃ ts, c.segments? j = some ts ∧ likeness ts = t ∧
      ∃ i < j, ∃ ss, c.segments? i = some ss ∧ List.Forall₂ (Alike asciiLowercase) ss ts := by
  rw [mem_faults_iff_of_isOfRoute rfl, duplicateRoute_mem_routeFaults_iff]
  simp only [Nat.zero_add, List.not_mem_nil, false_or, bind_likeness?, Option.map_eq_some_iff]
  constructor
  · rintro ⟨k, rfl, ⟨ts, hts, rfl⟩, i, hi, ss, hss, hlike⟩
    exact ⟨ts, hts, rfl, i, hi, ss, hss,
      (likeness_eq_iff (writable_of_segments? hss) (writable_of_segments? hts)).mp hlike⟩
  · rintro ⟨ts, hts, rfl, i, hi, ss, hss, halike⟩
    exact ⟨j, rfl, ⟨ts, hts, rfl⟩, i, hi, ss, hss,
      (likeness_eq_iff (writable_of_segments? hss) (writable_of_segments? hts)).mpr halike⟩

/-- **When a duplicate is reported.** Of two routes whose segments are alike up to lower case, the
later one is reported if and only if their names are equal up to the case of ASCII letters, or some
other earlier route is alike it up to this case. -/
theorem exists_duplicateRoute_iff {i : Nat} (hij : i < j) (hi : c.segments? i = some ss)
    (hj : c.segments? j = some ts) (hlike : List.Forall₂ (Alike Text.lowercase) ss ts) :
    (∃ t, .duplicateRoute j t ∈ c.faults) ↔
      List.Forall₂ (fun s t => asciiLowercase s.name = asciiLowercase t.name) ss ts ∨
      ∃ k < j, k ≠ i ∧ ∃ us, c.segments? k = some us ∧
        List.Forall₂ (Alike asciiLowercase) us ts := by
  simp only [duplicateRoute_mem_faults_iff, hj, Option.some.injEq]
  constructor
  · rintro ⟨t, us, rfl, -, k, hk, vs, hvs, halike⟩
    by_cases hki : k = i
    · subst hki
      obtain rfl : ss = vs := Option.some.inj (hi.symm.trans hvs)
      exact Or.inl (halike.imp fun _ _ h => h.name)
    · exact Or.inr ⟨k, hk, hki, vs, hvs, halike⟩
  · rintro (hnames | ⟨k, hk, -, us, hus, halike⟩)
    · have halike : List.Forall₂ (Alike asciiLowercase) ss ts :=
        List.Forall₂.mp (fun _ _ h hn => ⟨h.kind, h.type, hn⟩) hlike hnames
      exact ⟨_, ts, rfl, rfl, i, hij, ss, hi, halike⟩
    · exact ⟨_, ts, rfl, rfl, k, hk, us, hus, halike⟩

/-- Two routes that differ in the case of ASCII letters only, around a letter without case. -/
def streets : Config := { routes := [⟨"Straße/$nr:int", "show"⟩, ⟨"/STRAßE/$NR:Integer", "show"⟩] }

theorem exists_duplicateRoute_streets :
    streets.segments? 0 = some [.ofLiteral "Straße", .ofParam "nr" .int] ∧
    streets.segments? 1 = some [.ofLiteral "STRAßE", .ofParam "NR" .int] ∧
    ∃ t, .duplicateRoute 1 t ∈ streets.faults := by
  have hi : streets.segments? 0 = some [.ofLiteral "Straße", .ofParam "nr" .int] := rfl
  have hj : streets.segments? 1 = some [.ofLiteral "STRAßE", .ofParam "NR" .int] := rfl
  have hlike : List.Forall₂ (Alike Text.lowercase) [.ofLiteral "Straße", .ofParam "nr" .int]
      [.ofLiteral "STRAßE", .ofParam "NR" .int] :=
    .cons ⟨rfl, rfl, by decide +kernel⟩ (.cons ⟨rfl, rfl, by decide +kernel⟩ .nil)
  refine ⟨hi, hj, (exists_duplicateRoute_iff streets (by decide) hi hj hlike).mpr (Or.inl ?_)⟩
  exact .cons (by decide) (.cons (by decide) .nil)

/-- Two routes that differ in the case of an umlaut. -/
def umlauts : Config := { routes := [⟨"Ärger/$x", "show"⟩, ⟨"ärger/$x", "show"⟩] }

/-- **The case of an umlaut hides a duplicate.** The bases have the same lower case, but nothing is
reported. -/
theorem umlauts_pass : umlauts.router.maxSegments ≠ 0 ∧
    (∃ ss ts, umlauts.segments? 0 = some ss ∧ umlauts.segments? 1 = some ts ∧
      List.Forall₂ (Alike Text.lowercase) ss ts) ∧
    ¬ ∃ t, .duplicateRoute 1 t ∈ umlauts.faults := by
  have hi : umlauts.segments? 0 = some [.ofLiteral "Ärger", .ofParam "x" .untyped] := rfl
  have hj : umlauts.segments? 1 = some [.ofLiteral "ärger", .ofParam "x" .untyped] := rfl
  have hnone : umlauts.faults = [] := by decide +kernel
  refine ⟨by decide, ⟨_, _, hi, hj, ?_⟩, ?_⟩
  · exact .cons ⟨rfl, rfl, by decide +kernel⟩ (.cons ⟨rfl, rfl, rfl⟩ .nil)
  · rintro ⟨t, ht⟩
    rw [hnone] at ht
    cases ht

end Config

end PathRouter
