import Mathlib.Data.List.Forall2
import Mathlib.Data.List.Infix
import PathRouter.Proofs.Path

/-!
# Normal paths are canonical

A path is normal if it begins with a slash, holds no mark of a query or of a fragment, and no two
slashes in a row nor a slash at the end, the root apart (`Path.Normal`). Such paths are those made of
segments without marks (`normal_ofSegments`, `Normal.ofSegments_segmentsOf`), so normalization gives
normal paths and leaves no others as they are (`normalize_eq_self_iff`).

The base URL is removed as a list of segments, so a base in front of a path is removed however it is
written (`normalize_append`), and a path that does not begin with it stays
(`normalize_of_not_isBase`). All of this together is `normalize_canonical`.
-/

namespace PathRouter

namespace Text

variable {sep : Char} {cs ds : List Char}

/-- The pieces behind the first one are not empty, if no two separators come in a row and none comes
last. -/
theorem nil_not_mem_tail_pieces (hrow : ¬ [sep, sep] <:+: cs) (hend : cs.getLast? ≠ some sep) :
    [] ∉ (pieces sep cs).tail := by
  induction cs with
  | nil => simp [pieces]
  | cons c cs ih =>
    rw [List.infix_cons_iff, not_or] at hrow
    obtain ⟨hfirst, hrow⟩ := hrow
    cases cs with
    | nil =>
      have hc : c ≠ sep := fun e => hend (by rw [e]; rfl)
      simp [pieces, hc]
    | cons d ds =>
      have ih := ih hrow (by rwa [List.getLast?_cons_cons] at hend)
      rw [pieces]
      obtain ⟨p, ps, hps⟩ := List.exists_cons_of_ne_nil (pieces_ne_nil sep (d :: ds))
      by_cases hc : c = sep
      · have hd : d ≠ sep := fun e => hfirst (by simp [hc, e])
        have hp : [] ∉ [p] := by
          obtain ⟨q, qs, hqs⟩ := List.exists_cons_of_ne_nil (pieces_ne_nil sep ds)
          rw [pieces, if_neg hd, hqs] at hps
          simp [← (List.cons.inj hps).1]
        rw [if_pos hc, List.tail_cons, hps]
        rw [hps] at ih
        simp only [List.mem_cons, List.not_mem_nil, or_false] at hp ⊢
        exact not_or.mpr ⟨hp, ih⟩
      · rw [if_neg hc, hps]
        rw [hps] at ih
        exact ih

theorem segments_append (cs ds : List Char) :
    segments (cs ++ '/' :: ds) = segments cs ++ segments ds := by
  rw [segments, pieces_append, List.filter_append]
  rfl

/-- Texts with a slash between them have their segments one after another. -/
theorem segmentsOf_append (s t : String) :
    segmentsOf (s ++ "/" ++ t) = segmentsOf s ++ segmentsOf t := by
  have hlist : (s ++ "/" ++ t).toList = s.toList ++ '/' :: t.toList := by
    simp [String.toList_append]
  rw [segmentsOf, hlist, segments_append, List.map_append]
  rfl

end Text

namespace Path

/-! ### Normal paths -/

/-- Whether a path is in normal form: it begins with a slash, holds no mark of a query or of a
fragment, and no two slashes in a row, so that no segment is empty, and none at the end, unless it is
the root. -/
structure Normal (path : String) : Prop where
  slash : path.toList.head? = some '/'
  unmarked : Unmarked path
  separated : ¬ ['/', '/'] <:+: path.toList
  ended : path ≠ "/" → path.toList.getLast? ≠ some '/'

variable {xs : List String} {path : String}

theorem not_infix_slashes (h : ∀ x ∈ xs, IsSegment x) :
    ¬ ['/', '/'] <:+: xs.flatMap fun x => '/' :: x.toList := by
  induction xs with
  | nil => simp
  | cons x xs ih =>
    obtain ⟨hne, hslash⟩ := h x List.mem_cons_self
    have ih := ih fun y hy => h y (List.mem_cons_of_mem _ hy)
    obtain ⟨c, cs, hc⟩ := List.exists_cons_of_ne_nil hne
    rw [List.flatMap_cons, List.cons_append, List.infix_cons_iff, List.infix_append_iff]
    rintro (hfirst | hx | hxs | ⟨l, r, hlr, hl, hr⟩)
    · rw [hc] at hfirst hslash
      simp only [List.cons_append, List.cons_prefix_cons] at hfirst
      exact hslash (hfirst.2.1 ▸ List.mem_cons_self)
    · exact hslash (hx.subset List.mem_cons_self)
    · exact ih hxs
    · -- a pair across the border has its first slash in the segment, if it has any part there
      cases l with
      | nil =>
        obtain rfl : ['/', '/'] = r := hlr
        exact ih hr.isInfix
      | cons d ds =>
        obtain rfl : '/' = d := (List.cons.inj hlr).1
        exact hslash (hl.subset List.mem_cons_self)

theorem getLast?_slashed (h : ∀ x ∈ xs, IsSegment x) :
    (xs.flatMap fun x => '/' :: x.toList).getLast? ≠ some '/' := by
  induction xs with
  | nil => simp
  | cons x xs ih =>
    obtain ⟨hne, hslash⟩ := h x List.mem_cons_self
    have ih := ih fun y hy => h y (List.mem_cons_of_mem _ hy)
    rw [List.flatMap_cons, List.getLast?_append]
    cases hl : (xs.flatMap fun x => '/' :: x.toList).getLast? with
    | some c =>
      rw [hl] at ih
      exact ih
    | none =>
      obtain ⟨c, cs, hc⟩ := List.exists_cons_of_ne_nil hne
      rw [hc, Option.none_or, List.getLast?_cons_cons, ← hc]
      exact fun he => hslash (List.mem_of_getLast? he)

/-- Segments without marks make a normal path. -/
theorem normal_ofSegments (h : ∀ x ∈ xs, IsSegment x) (hm : ∀ x ∈ xs, Unmarked x) :
    Normal (ofSegments xs) where
  slash := by rw [ofSegments, String.toList_ofList, List.head?_cons]
  unmarked := unmarked_ofSegments hm
  separated := by
    by_cases hxs : xs = []
    · subst hxs
      decide
    · rw [toList_ofSegments hxs]
      exact not_infix_slashes h
  ended hroot := by
    have hxs : xs ≠ [] := mt (ofSegments_eq_root_iff h).mpr hroot
    rw [toList_ofSegments hxs]
    exact getLast?_slashed h

/-- A normal path is made of its segments. -/
theorem Normal.ofSegments_segmentsOf (h : Normal path) : ofSegments (Text.segmentsOf path) = path := by
  obtain ⟨cs, hcs⟩ := List.head?_eq_some_iff.mp h.slash
  have hpieces : cs ≠ [] → Text.segments cs = Text.pieces '/' cs := by
    intro hne
    have hroot : path ≠ "/" := by
      rintro rfl
      exact hne (List.cons.inj hcs).2.symm
    have hrow := h.separated
    have hend := h.ended hroot
    rw [hcs] at hrow hend
    -- the first piece stands before the leading slash
    have hnil := Text.nil_not_mem_tail_pieces hrow hend
    rw [Text.pieces_cons_sep, List.tail_cons] at hnil
    refine List.filter_eq_self.mpr fun p hp => ?_
    cases p with
    | nil => exact absurd hp hnil
    | cons c p => rfl
  rw [ofSegments, Text.segmentsOf, List.map_map, ← String.toList_inj, String.toList_ofList, hcs,
    Text.segments_slash]
  have hmap : (Text.segments cs).map (String.toList ∘ String.ofList) = Text.segments cs :=
    List.map_id'' (fun p => String.toList_ofList) _
  rw [hmap, List.cons.injEq, and_iff_right rfl]
  by_cases hne : cs = []
  · subst hne
    rfl
  · rw [hpieces hne, Text.joined_pieces]

theorem normal_normalize (raw : String) (baseUrl : Option String) : Normal (normalize raw baseUrl) :=
  normal_ofSegments (fun _ => isSegment_of_mem_segments) fun _ => unmarked_of_mem_segments

/-- **Normal paths are the ones that normalization leaves as they are.** -/
theorem normalize_eq_self_iff : normalize path none = path ↔ Normal path := by
  constructor
  · intro h
    exact h ▸ normal_normalize path none
  · intro h
    show ofSegments (Text.segmentsOf (location path)) = path
    rw [location_of_unmarked h.unmarked, h.ofSegments_segmentsOf]

/-! ### The base URL -/

/-- Whether some segments are those of a base URL up to lower case. -/
def IsBase (base : String) (front : List String) : Prop :=
  List.Forall₂ (fun x b => Text.lowercase x = Text.lowercase b) front (Text.segmentsOf base)

variable {raw base : String}

theorem location_append {s : String} (h : Unmarked s) (t : String) :
    location (s ++ t) = s ++ location t := by
  have hpos : ∀ c ∈ s.toList, (c != '?' && c != '#') = true := by
    intro c hc
    simpa using h c hc
  rw [location, String.toList_append, List.takeWhile_append_of_pos hpos, String.ofList_append,
    String.ofList_toList]
  rfl

/-- What is left of a path that begins with the base. -/
theorem segments_of_isBase {front rest : List String} (hfront : IsBase base front)
    (hall : Text.segmentsOf (location raw) = front ++ rest) : segments raw (some base) = rest := by
  have hdrop := dropBase?_eq_some_iff.mpr ⟨front, hall, hfront⟩
  show (dropBase? _ _).getD _ = rest
  rw [hdrop, Option.getD_some]

/-- **A base in front of a path is removed**, however it is written up to lower case. -/
theorem normalize_append {written : String} (hm : Unmarked written)
    (hbase : IsBase base (Text.segmentsOf written)) (raw : String) :
    normalize (written ++ "/" ++ raw) (some base) = normalize raw none := by
  have hslash : Unmarked (written ++ "/") := by
    intro c hc
    rw [String.toList_append] at hc
    rcases List.mem_append.mp hc with hc | hc
    · exact hm c hc
    · rw [List.mem_singleton.mp hc]
      decide
  have hall : Text.segmentsOf (location (written ++ "/" ++ raw)) =
      Text.segmentsOf written ++ Text.segmentsOf (location raw) := by
    rw [location_append hslash, Text.segmentsOf_append]
  rw [normalize, segments_of_isBase hbase hall]
  rfl

/-- **A path that does not begin with the base** stays. -/
theorem normalize_of_not_isBase
    (h : ¬ ∃ front, front <+: Text.segmentsOf (location raw) ∧ IsBase base front) :
    normalize raw (some base) = normalize raw none := by
  have hdrop : dropBase? (Text.segmentsOf base) (Text.segmentsOf (location raw)) = none := by
    rw [Option.eq_none_iff_forall_ne_some]
    intro rest hrest
    obtain ⟨front, hall, hfront⟩ := dropBase?_eq_some_iff.mp hrest
    exact h ⟨front, ⟨rest, hall.symm⟩, hfront⟩
  show ofSegments ((dropBase? _ _).getD _) = _
  rw [hdrop]
  rfl

/-- **Normalization is canonical.** What it gives is normal, so that normalizing it again changes
nothing and its first segment can be read off it; normal texts are the ones that stay. It keeps the
segments of the path, and nothing else of it counts. A base in front is removed, however it is
written up to lower case, and a path that does not begin with the base stays. -/
theorem normalize_canonical (raw : String) :
    (∀ baseUrl, Normal (normalize raw baseUrl) ∧
      (firstSegment? (normalize raw baseUrl) = none ↔ normalize raw baseUrl = "/") ∧
      firstSegment? (normalize raw baseUrl) = (Text.segmentsOf (normalize raw baseUrl)).head? ∧
      normalize (normalize raw baseUrl) none = normalize raw baseUrl) ∧
    (normalize raw none = raw ↔ Normal raw) ∧
    Text.segmentsOf (normalize raw none) = Text.segmentsOf (location raw) ∧
    (∀ raw' baseUrl, Text.segmentsOf (location raw) = Text.segmentsOf (location raw') →
      normalize raw baseUrl = normalize raw' baseUrl) ∧
    ∀ base,
      (∀ written, Unmarked written → IsBase base (Text.segmentsOf written) →
        normalize (written ++ "/" ++ raw) (some base) = normalize raw none) ∧
      ((¬ ∃ front, front <+: Text.segmentsOf (location raw) ∧ IsBase base front) →
        normalize raw (some base) = normalize raw none) := by
  refine ⟨fun baseUrl => ⟨normal_normalize raw baseUrl, ?_, ?_, ?_⟩, normalize_eq_self_iff,
    segmentsOf_normalize raw none, ?_, fun base => ⟨?_, normalize_of_not_isBase⟩⟩
  · rw [firstSegment?_normalize, normalize_eq_root_iff, List.head?_eq_none_iff]
  · rw [firstSegment?_normalize, segmentsOf_normalize]
  · exact normalize_eq_self_iff.mpr (normal_normalize raw baseUrl)
  · intro raw' baseUrl hsame
    have hsegments : segments raw baseUrl = segments raw' baseUrl := by
      unfold segments
      rw [hsame]
    rw [normalize, hsegments, normalize]
  · intro written hm hbase
    exact normalize_append hm hbase raw

/-- A path with stray slashes and a query, with a base of two segments in front and without. -/
theorem normalize_canonical_app :
    normalize "user/1#top" (some "/User") = normalize "//user//1/?x=/y" (some "/User") ∧
    normalize ("äPP//V1" ++ "/" ++ "//user//1/?x=/y") (some "/Äpp/v1/") = "/user/1" ∧
    normalize "//user//1/?x=/y" (some "/Äpp/v1/") = "/user/1" := by
  obtain ⟨-, -, -, hsame, hbase⟩ := normalize_canonical "//user//1/?x=/y"
  obtain ⟨hfront, hother⟩ := hbase "/Äpp/v1/"
  have hnormal : normalize "//user//1/?x=/y" none = "/user/1" := by decide
  have hsegments : Text.segmentsOf (location "//user//1/?x=/y") = ["user", "1"] := by decide
  have hwritten : IsBase "/Äpp/v1/" (Text.segmentsOf "äPP//V1") := by
    show List.Forall₂ _ ["äPP", "V1"] ["Äpp", "v1"]
    exact .cons (by decide +kernel) (.cons (by decide +kernel) .nil)
  refine ⟨(hsame _ _ (by decide)).symm, ?_, ?_⟩
  · rw [hfront "äPP//V1" (by decide) hwritten, hnormal]
  · rw [hother ?_, hnormal]
    rintro ⟨front, hprefix, hbase⟩
    have hlower : Text.lowercase "user" ≠ Text.lowercase "Äpp" := by decide +kernel
    rw [hsegments] at hprefix
    cases hbase with
    | @cons x _ front _ hx _ =>
      obtain rfl : x = "user" := (List.cons_prefix_cons.mp hprefix).1
      exact hlower hx

end Path

end PathRouter
