import Mathlib.Data.Set.Basic
import PathRouter.Proofs.FileTree

/-!
# What replacing a file changes

A file is replaced by way of a temporary one, whose name is made from the path. Replacing can fail
because of what is in the tree, or because the device fails. Whatever happens, the place of the
temporary file is the only one that changes unless all of it succeeds. Then the file is at the place
of the path and nothing is left at the other (`changes_of_replaceText`). So who reads the path finds
what was there before or the new text, unless the path is its own temporary name. The name of the
temporary file is not protected: a file that has it is lost if replacing succeeds, and a new one can
stay if it fails (`replaceText_uses_temporary`).
-/

namespace PathRouter.FileTree

/-- The place that a path leads to, if there is one. -/
def places (t : FileTree) (path : String) : Set Place := {p | t.locate path = .ok p}

/-- Whether a tree differs from another one at some places only. -/
structure DiffersAt (t u : FileTree) (ps : Set Place) : Prop where
  working : u.working = t.working
  clock : u.clock = t.clock
  fault : u.fault = t.fault
  nodes : ∀ p, p ∉ ps → u.node? p = t.node? p

variable {t u : FileTree} {p q : Place} {path content : String} {ps : Set Place}
  {r : Except FileError Unit}

theorem DiffersAt.refl (t : FileTree) (ps : Set Place) : t.DiffersAt t ps :=
  ⟨rfl, rfl, rfl, fun _ _ => rfl⟩

theorem differsAt_put (hp : t.IsFree p) (n : FileNode) (h : p ∈ ps) :
    t.DiffersAt (t.put p n) ps := by
  refine ⟨rfl, rfl, rfl, fun q hq => ?_⟩
  rw [node?_put hp.ne_nil, if_neg]
  rintro rfl
  exact hq h

/-- A file that is written elsewhere and then moved changes these two places. -/
theorem differsAt_move {f : File} (hp : t.IsFree p) (hq : t.IsFree q) (hps : p ∈ ps)
    (hqs : q ∈ ps) : t.DiffersAt (((t.put p (.file f)).erase p).put q (.file f)) ps := by
  refine ⟨rfl, rfl, rfl, fun r hr => ?_⟩
  have hrq : r ≠ q := fun h => hr (h ▸ hqs)
  have hrp : r ≠ p := fun h => hr (h ▸ hps)
  rw [node?_put hq.ne_nil, if_neg hrq, node?_erase hp.ne_nil, if_neg hrp, node?_put hp.ne_nil,
    if_neg hrp]

/-- **Replacing that succeeds** puts the file to the place of the path and leaves nothing at that of
the temporary file. -/
theorem Replaces.changes_of_ok (h : t.Replaces path content (.ok (), u)) :
    (∀ p ∈ t.places (withEnding "tmp" path), p ∉ t.places path → u.node? p = none) ∧
    t.DiffersAt u (t.places path ∪ t.places (withEnding "tmp" path)) := by
  cases h with
  | @moved p q f hw hq hfree =>
    refine ⟨fun p' hp' hne => ?_, differsAt_move hw.free hfree (Or.inr hw.place) (Or.inl hq)⟩
    obtain rfl : p = p' := Except.ok.inj (hw.place.symm.trans hp')
    have hpq : p ≠ q := fun h => hne (h ▸ hq)
    rw [node?_put hfree.ne_nil, if_neg hpq, node?_erase hw.free.ne_nil, if_pos rfl]

/-- **Replacing that fails** leaves the tree as it was, or with the temporary file written. -/
theorem Replaces.changes_of_error {e : FileError} (h : t.Replaces path content (.error e, u)) :
    t.DiffersAt u (t.places (withEnding "tmp" path)) ∧
    ((∃ cause, t.fault = some (.opening cause)) ∨
      (∀ bytes v, t.write (withEnding "tmp" path) bytes ≠ .ok v) → u = t) := by
  cases h with
  | refused => exact ⟨.refl t _, fun _ => rfl⟩
  | @givenUp _ p f hw hf =>
    refine ⟨differsAt_put hw.free _ hw.place, ?_⟩
    rintro (⟨cause, hopening⟩ | hunwritten)
    · exact absurd hopening (hf cause)
    · exact absurd hw.written (hunwritten _ _)

/-- **What replacing a file changes**, whether the device fails or not. If it succeeds, the path is
read with the new text, nothing is left at the place of the temporary file, and all other places are
as they were. If it fails, all places but that of the temporary file are as they were, and that one
too if the device does not open the temporary file or it cannot be written. -/
theorem changes_of_replaceText (h : t.replaceText path content = (r, u)) :
    (r = .ok () → u.readText? path = .ok (some content) ∧
      (∀ p ∈ t.places (withEnding "tmp" path), p ∉ t.places path → u.node? p = none) ∧
      t.DiffersAt u (t.places path ∪ t.places (withEnding "tmp" path))) ∧
    ∀ e, r = .error e → t.DiffersAt u (t.places (withEnding "tmp" path)) ∧
      ((∃ cause, t.fault = some (.opening cause)) ∨
        (∀ bytes v, t.write (withEnding "tmp" path) bytes ≠ .ok v) → u = t) := by
  have hr := t.replaces path content
  rw [h] at hr
  constructor
  · rintro rfl
    exact ⟨hr.readText? rfl, hr.changes_of_ok⟩
  · rintro e rfl
    exact hr.changes_of_error

/-- A folder with a cache, in which the name of its temporary file is taken. -/
def crowdedFiles : FileTree :=
  (({} : FileTree).put ["routes.json"] (.file ⟨"old".toUTF8, 0, true⟩)).put ["routes.tmp"]
    (.file ⟨"notes".toUTF8, 0, true⟩)

theorem places_crowdedFiles : ["routes.json"] ∈ crowdedFiles.places "routes.json" ∧
    ["routes.tmp"] ∈ crowdedFiles.places (withEnding "tmp" "routes.json") := by
  constructor
  · show crowdedFiles.locate "routes.json" = .ok ["routes.json"]
    with_unfolding_all rfl
  · show crowdedFiles.locate (withEnding "tmp" "routes.json") = .ok ["routes.tmp"]
    with_unfolding_all rfl

/-- The same folder on a full device, which takes two bytes of the text. -/
def crowdedDevice : FileTree :=
  { crowdedFiles with fault := some (.writing (.device "StorageFull") 2) }

/-- The cache is replaced, or the device is full; then the cache is still there. -/
theorem changes_of_replaceText_crowded : ∃ u v,
    crowdedFiles.replaceText "routes.json" "new" = (.ok (), u) ∧
    u.readText? "routes.json" = .ok (some "new") ∧ u.node? ["routes.tmp"] = none ∧
    crowdedDevice.replaceText "routes.json" "new" = (.error (.device "StorageFull"), v) ∧
    v.node? ["routes.json"] = crowdedDevice.node? ["routes.json"] := by
  obtain ⟨hjson, htmp⟩ := places_crowdedFiles
  have hne : ["routes.tmp"] ≠ ["routes.json"] := by decide
  obtain ⟨u, hu⟩ : ∃ u, crowdedFiles.replaceText "routes.json" "new" = (.ok (), u) :=
    ⟨_, by with_unfolding_all rfl⟩
  obtain ⟨v, hv⟩ : ∃ v, crowdedDevice.replaceText "routes.json" "new" =
      (.error (.device "StorageFull"), v) := ⟨_, by with_unfolding_all rfl⟩
  obtain ⟨hread, hgone, -⟩ := (changes_of_replaceText hu).1 rfl
  obtain ⟨hkept, -⟩ := (changes_of_replaceText hv).2 _ rfl
  refine ⟨u, v, hu, hread, hgone _ htmp ?_, hv, hkept.nodes _ ?_⟩
  · intro h
    exact hne (Except.ok.inj (h.symm.trans hjson))
  · intro h
    exact hne (Except.ok.inj (htmp.symm.trans h))

/-- A folder in which the path of a cache is taken by a folder. -/
def blockedFiles : FileTree := ({} : FileTree).put ["routes.json"] (.folder 0)

/-- **The name of the temporary file is not protected**: the file stays if it cannot take its place,
and one that was there before is gone if it can. -/
theorem replaceText_uses_temporary :
    (blockedFiles.replaceText "routes.json" "new").1 = .error .isADirectory ∧
    (blockedFiles.node? ["routes.tmp"]).isSome = false ∧
    ((blockedFiles.replaceText "routes.json" "new").2.node? ["routes.tmp"]).isSome = true ∧
    (crowdedFiles.replaceText "routes.json" "new").1 = .ok () ∧
    (crowdedFiles.node? ["routes.tmp"]).isSome = true ∧
    ((crowdedFiles.replaceText "routes.json" "new").2.node? ["routes.tmp"]).isSome = false := by
  with_unfolding_all
  exact ⟨rfl, rfl, rfl, rfl, rfl, rfl⟩

end PathRouter.FileTree
