import Mathlib.Data.List.Forall2
import Mathlib.Data.List.TakeWhile
import PathRouter.Path

/-!
# Normal paths

A normal path is a slash followed by its segments with slashes between them, and no segment is empty
or holds a slash. So the segments can be read off the path again (`segmentsOf_ofSegments`), the
first segment is the first of them (`firstSegment?_ofSegments`), and only the root has none
(`normalize_eq_root_iff`). No segment holds the mark of a query or of a fragment; a path of such
segments is in normal form (`segments_ofSegments`). The segments that are left without a base URL
stand behind some that are equal to those of the base up to lower case (`dropBase?_eq_some_iff`).
-/

namespace PathRouter

namespace Text

theorem joined_cons (sep : Char) (p : List Char) {ps : List (List Char)} (h : ps ≠ []) :
    joined sep (p :: ps) = p ++ sep :: joined sep ps := by
  obtain ⟨q, qs, rfl⟩ := List.exists_cons_of_ne_nil h
  rfl

/-- Pieces without the separator are cut apart again. -/
theorem pieces_joined {sep : Char} : ∀ {ps : List (List Char)}, ps ≠ [] → (∀ p ∈ ps, sep ∉ p) →
    pieces sep (joined sep ps) = ps
  | [], h, _ => absurd rfl h
  | [p], _, hs => pieces_of_not_mem (hs p (by simp))
  | p :: q :: ps, _, hs => by
    rw [joined_cons sep p (by simp), pieces_append_sep (hs p (by simp)),
      pieces_joined (by simp) fun r hr => hs r (List.mem_cons_of_mem _ hr)]

theorem mem_joined {sep c : Char} : ∀ {ps : List (List Char)} {p : List Char}, p ∈ ps → c ∈ p →
    c ∈ joined sep ps
  | [q], p, hp, hc => by
    rw [List.mem_singleton] at hp
    exact hp ▸ hc
  | q :: r :: ps, p, hp, hc => by
    rw [joined_cons sep q (by simp)]
    rcases List.mem_cons.mp hp with rfl | hp
    · exact List.mem_append_left _ hc
    · exact List.mem_append_right _ (List.mem_cons_of_mem _ (mem_joined hp hc))

theorem mem_of_mem_segments {c : Char} {cs p : List Char} (hp : p ∈ segments cs) (hc : c ∈ p) :
    c ∈ cs := by
  rw [← joined_pieces '/' cs]
  exact mem_joined (List.mem_filter.mp hp).1 hc

theorem segments_slash (cs : List Char) : segments ('/' :: cs) = segments cs := by
  simp [segments]

/-- Segments joined by slashes are read again as the segments. -/
theorem segments_joined {ps : List (List Char)} (h : ∀ p ∈ ps, p ≠ [] ∧ '/' ∉ p) :
    segments (joined '/' ps) = ps := by
  by_cases hps : ps = []
  · subst hps
    rfl
  · rw [segments, pieces_joined hps fun p hp => (h p hp).2, List.filter_eq_self]
    intro p hp
    simpa using (h p hp).1

end Text

namespace Path

/-- Whether a text can be a segment of a normal path. -/
def IsSegment (x : String) : Prop := x.toList ≠ [] ∧ '/' ∉ x.toList

instance (x : String) : Decidable (IsSegment x) :=
  inferInstanceAs (Decidable (x.toList ≠ [] ∧ '/' ∉ x.toList))

theorem isSegment_of_mem_segmentsOf {s x : String} (h : x ∈ Text.segmentsOf s) : IsSegment x := by
  obtain ⟨p, hp, rfl⟩ := List.mem_map.mp h
  simpa [IsSegment] using Text.mem_segments hp

/-- What is left of some segments stands behind those of the base. -/
theorem dropBase?_eq_some_iff {base all rest : List String} : dropBase? base all = some rest ↔
    ∃ front, all = front ++ rest ∧
      List.Forall₂ (fun x b => Text.lowercase x = Text.lowercase b) front base := by
  induction base generalizing all with
  | nil => simp [dropBase?]
  | cons b base ih =>
    cases all with
    | nil => simp [dropBase?]
    | cons x all =>
      rw [dropBase?]
      split_ifs with hx
      · rw [ih]
        constructor
        · rintro ⟨front, rfl, hfront⟩
          exact ⟨x :: front, rfl, .cons hx hfront⟩
        · rintro ⟨front, hall, hfront⟩
          cases hfront with
          | @cons y _ front _ hy hfront => exact ⟨front, (List.cons.inj hall).2, hfront⟩
      · refine iff_of_false (by simp) ?_
        rintro ⟨front, hall, hfront⟩
        cases hfront with
        | @cons y _ front _ hy hfront =>
          obtain rfl : x = y := (List.cons.inj hall).1
          exact hx hy

theorem dropBase?_suffix {base all rest : List String} (h : dropBase? base all = some rest) :
    rest <:+ all := by
  obtain ⟨front, rfl, -⟩ := dropBase?_eq_some_iff.mp h
  exact List.suffix_append front rest

/-- Removing the base URL leaves segments of the path. -/
theorem segments_suffix (raw : String) (baseUrl : Option String) :
    segments raw baseUrl <:+ Text.segmentsOf (location raw) := by
  unfold segments
  cases baseUrl with
  | none => exact List.suffix_refl _
  | some base =>
    show ((dropBase? (Text.segmentsOf base) _).getD _) <:+ _
    cases hd : dropBase? (Text.segmentsOf base) (Text.segmentsOf (location raw)) with
    | none => exact List.suffix_refl _
    | some rest => exact dropBase?_suffix hd

theorem isSegment_of_mem_segments {raw x : String} {baseUrl : Option String}
    (h : x ∈ segments raw baseUrl) : IsSegment x :=
  isSegment_of_mem_segmentsOf ((segments_suffix raw baseUrl).subset h)

variable {xs : List String}

/-- **The segments of a normal path.** -/
theorem segmentsOf_ofSegments (h : ∀ x ∈ xs, IsSegment x) :
    Text.segmentsOf (ofSegments xs) = xs := by
  have hp : ∀ p ∈ xs.map String.toList, p ≠ [] ∧ '/' ∉ p := by
    intro p hp
    obtain ⟨x, hx, rfl⟩ := List.mem_map.mp hp
    exact h x hx
  rw [Text.segmentsOf, ofSegments, String.toList_ofList, Text.segments_slash,
    Text.segments_joined hp, List.map_map]
  exact List.map_id'' (fun x => by simp) xs

/-- The path of some segments: a slash before each of them. -/
theorem toList_ofSegments (h : xs ≠ []) :
    (ofSegments xs).toList = xs.flatMap fun x => '/' :: x.toList := by
  rw [ofSegments, String.toList_ofList]
  induction xs with
  | nil => exact absurd rfl h
  | cons x xs ih =>
    by_cases hx : xs = []
    · subst hx
      simp [Text.joined]
    · rw [List.map_cons, Text.joined_cons _ _ (by simpa using hx), List.flatMap_cons, ← ih hx]
      simp

theorem ofSegments_eq_root_iff (h : ∀ x ∈ xs, IsSegment x) : ofSegments xs = "/" ↔ xs = [] := by
  constructor
  · intro he
    have hs := segmentsOf_ofSegments h
    rw [he] at hs
    exact hs.symm.trans (by decide)
  · rintro rfl
    rfl

/-- **The first segment of a normal path** is the first of its segments. -/
theorem firstSegment?_ofSegments (h : ∀ x ∈ xs, IsSegment x) :
    firstSegment? (ofSegments xs) = xs.head? := by
  cases xs with
  | nil => rfl
  | cons x xs =>
    obtain ⟨hne, hx⟩ := h x (by simp)
    obtain ⟨c, cs, hc⟩ := List.exists_cons_of_ne_nil hne
    have hcs : ∀ d ∈ x.toList, (d != '/') = true := by
      intro d hd
      have : d ≠ '/' := by rintro rfl; exact hx hd
      simpa using this
    have hdrop : ((ofSegments (x :: xs)).toList.dropWhile (· == '/')) =
        x.toList ++ xs.flatMap fun y => '/' :: y.toList := by
      have : c ≠ '/' := fun e => hx (by rw [hc]; simp [e])
      rw [toList_ofSegments (by simp), List.flatMap_cons, hc]
      simp [this]
    have htake : (x.toList ++ xs.flatMap fun y => '/' :: y.toList).takeWhile (· != '/') =
        x.toList := by
      rw [List.takeWhile_append_of_pos hcs]
      cases xs <;> simp
    rw [firstSegment?, hdrop, htake, hc]
    simp [← hc]

/-! ### Queries and fragments -/

/-- Whether a text holds neither the mark of a query nor the mark of a fragment. -/
def Unmarked (s : String) : Prop := ∀ c ∈ s.toList, c ≠ '?' ∧ c ≠ '#'

instance (s : String) : Decidable (Unmarked s) :=
  List.decidableBAll (fun c => c ≠ '?' ∧ c ≠ '#') s.toList

theorem unmarked_location (raw : String) : Unmarked (location raw) := by
  intro c hc
  rw [location, String.toList_ofList] at hc
  simpa using List.mem_takeWhile_imp hc

theorem location_of_unmarked {raw : String} (h : Unmarked raw) : location raw = raw := by
  have hall : raw.toList.takeWhile (fun c => c != '?' && c != '#') = raw.toList := by
    rw [List.takeWhile_eq_self_iff]
    intro c hc
    simpa using h c hc
  rw [location, hall, String.ofList_toList]

/-- No segment of a path holds a mark, since the path ends before the first one. -/
theorem unmarked_of_mem_segments {raw x : String} {baseUrl : Option String}
    (h : x ∈ segments raw baseUrl) : Unmarked x := by
  intro c hc
  obtain ⟨p, hp, rfl⟩ := List.mem_map.mp ((segments_suffix raw baseUrl).subset h)
  rw [String.toList_ofList] at hc
  exact unmarked_location raw c (Text.mem_of_mem_segments hp hc)

theorem unmarked_ofSegments (h : ∀ x ∈ xs, Unmarked x) : Unmarked (ofSegments xs) := by
  by_cases hxs : xs = []
  · subst hxs
    decide
  · intro c hc
    rw [toList_ofSegments hxs] at hc
    obtain ⟨x, hx, hc⟩ := List.mem_flatMap.mp hc
    rcases List.mem_cons.mp hc with rfl | hc
    · decide
    · exact h x hx c hc

/-- Segments without marks are what their path is cut into. -/
theorem segments_ofSegments (h : ∀ x ∈ xs, IsSegment x) (hm : ∀ x ∈ xs, Unmarked x) :
    segments (ofSegments xs) none = xs := by
  show Text.segmentsOf (location (ofSegments xs)) = xs
  rw [location_of_unmarked (unmarked_ofSegments hm), segmentsOf_ofSegments h]

/-! ### Normal forms -/

variable (raw : String) (baseUrl : Option String)

theorem segmentsOf_normalize : Text.segmentsOf (normalize raw baseUrl) = segments raw baseUrl :=
  segmentsOf_ofSegments fun _ => isSegment_of_mem_segments

/-- **Only the root has no segments.** -/
theorem normalize_eq_root_iff : normalize raw baseUrl = "/" ↔ segments raw baseUrl = [] :=
  ofSegments_eq_root_iff fun _ => isSegment_of_mem_segments

theorem firstSegment?_normalize :
    firstSegment? (normalize raw baseUrl) = (segments raw baseUrl).head? :=
  firstSegment?_ofSegments fun _ => isSegment_of_mem_segments

end Path

end PathRouter
