import Mathlib.Data.List.Basic
import PathRouter.FileTree

/-!
# Reading a file that was replaced

A path passes through folders only, so it leads to the same place as long as every folder stays
where it is (`locate_of_keepsFolders`). Writing and renaming files keep the folders. What replacing
a file can come to is said once (`replaces`): it is refused, or given up when the temporary file is
written, or that file is moved. Hence a file that was replaced is read with its new text
(`readText?_replaceText`), and replacing a file by the text that it holds changes nothing for who
reads it, even if replacing fails halfway (`readText?_replaceText_same`), unless the device fails
while the file serves as its own temporary file.
-/

namespace PathRouter.FileTree

variable {t u : FileTree} {p q : Place} {path content : String}

/-! ### What is at a place -/

theorem node?_nil (t : FileTree) : t.node? [] = some (.folder 0) := if_pos rfl

theorem node?_put (hp : p ≠ []) (n : FileNode) :
    (t.put p n).node? q = if q = p then some n else t.node? q := by
  unfold node? put
  by_cases hq : q = []
  · subst hq
    rw [if_pos rfl, if_neg (Ne.symm hp), if_pos rfl]
  · rw [if_neg hq, if_neg hq]
    exact Assoc.lookup_put p q n t.nodes

theorem node?_erase (hp : p ≠ []) : (t.erase p).node? q = if q = p then none else t.node? q := by
  unfold node? erase
  by_cases hq : q = []
  · subst hq
    rw [if_pos rfl, if_neg (Ne.symm hp), if_pos rfl]
  rw [if_neg hq, if_neg hq]
  induction t.nodes with
  | nil => simp
  | cons n ns ih =>
    obtain ⟨r, m⟩ := n
    by_cases hr : r = p
    · subst hr
      by_cases hqr : q = r
      · simpa [hqr] using ih
      · simpa [hqr, List.lookup_cons, beq_eq_false_iff_ne.mpr hqr] using ih
    · by_cases hqr : q = r
      · subst hqr
        simp [hr]
      · simpa [hr, List.lookup_cons, beq_eq_false_iff_ne.mpr hqr] using ih

/-! ### Where a path leads -/

/-- Every folder of a tree is also in another one, which has the same working folder. -/
structure KeepsFolders (t u : FileTree) : Prop where
  working : u.working = t.working
  folders : ∀ q made, t.node? q = some (.folder made) → u.node? q = some (.folder made)

/-- Whether a file may come to a place: there is no folder. -/
def IsFree (t : FileTree) (p : Place) : Prop := ∀ made, t.node? p ≠ some (.folder made)

theorem IsFree.ne_nil (h : t.IsFree p) : p ≠ [] := by
  rintro rfl
  exact h 0 (node?_nil t)

theorem isFree_of_file {f : File} (h : t.node? p = some (.file f)) : t.IsFree p := by
  intro made hm
  rw [h] at hm
  simp at hm

theorem IsFree.put (h : t.IsFree q) (hp : t.IsFree p) (f : File) :
    (t.put p (.file f)).IsFree q := by
  intro made hm
  rw [node?_put hp.ne_nil] at hm
  split_ifs at hm
  · simp at hm
  · exact h made hm

theorem IsFree.erase (h : t.IsFree q) (hp : t.IsFree p) : (t.erase p).IsFree q := by
  intro made hm
  rw [node?_erase hp.ne_nil] at hm
  split_ifs at hm
  exact h made hm

theorem keepsFolders_put (h : t.IsFree p) (n : FileNode) : t.KeepsFolders (t.put p n) := by
  refine ⟨rfl, fun q made hq => ?_⟩
  have hne : q ≠ p := by
    rintro rfl
    exact h made hq
  rw [node?_put h.ne_nil, if_neg hne, hq]

theorem keepsFolders_of_put (hp : t.IsFree p) (f : File) :
    (t.put p (.file f)).KeepsFolders t := by
  refine ⟨rfl, fun q made hq => ?_⟩
  rw [node?_put hp.ne_nil] at hq
  split_ifs at hq with hqp
  · simp at hq
  · exact hq

theorem keepsFolders_erase (h : t.IsFree p) : t.KeepsFolders (t.erase p) := by
  refine ⟨rfl, fun q made hq => ?_⟩
  have hne : q ≠ p := by
    rintro rfl
    exact h made hq
  rw [node?_erase h.ne_nil, if_neg hne, hq]

theorem KeepsFolders.trans {v : FileTree} (h : t.KeepsFolders u) (h' : u.KeepsFolders v) :
    t.KeepsFolders v :=
  ⟨h'.working.trans h.working, fun q made hq => h'.folders q made (h.folders q made hq)⟩

/-- A file that is written at one place and then moved to another keeps the folders. -/
theorem keepsFolders_move (hp : t.IsFree p) (hq : t.IsFree q) (f : File) :
    t.KeepsFolders (((t.put p (.file f)).erase p).put q (.file f)) := by
  have hput := hp.put hp f
  exact (keepsFolders_put hp _).trans
    ((keepsFolders_erase hput).trans (keepsFolders_put ((hq.put hp f).erase hput) _))

/-- Names that lead to a place do so in every tree with the same folders. -/
theorem walk_of_keepsFolders (h : t.KeepsFolders u) : ∀ {names : List String} {here : Place},
    t.walk here names = .ok p → u.walk here names = .ok p
  | [], here, hw => hw
  | name :: names, here, hw => by
    rw [walk] at hw ⊢
    cases hn : t.node? here with
    | none => rw [hn] at hw; simp at hw
    | some n =>
      cases n with
      | file f => rw [hn] at hw; simp at hw
      | folder made =>
        rw [h.folders here made hn]
        rw [hn] at hw
        dsimp only at hw ⊢
        split_ifs at hw ⊢
        all_goals exact walk_of_keepsFolders h hw

theorem locate_of_keepsFolders (h : t.KeepsFolders u) (hl : t.locate path = .ok p) :
    u.locate path = .ok p := by
  unfold locate at hl ⊢
  rw [h.working]
  split_ifs at hl ⊢
  all_goals exact walk_of_keepsFolders h hl

theorem withoutEndSlashes_of_not_namesFolder (h : namesFolder path = false) :
    withoutEndSlashes path = path := by
  have hlast : ¬ ['/'] <:+ path.toList := by
    have hs := String.Slice.endsWith_string_eq_false_iff.mp h
    rwa [String.copy_toSlice] at hs
  have hdrop : path.toList.reverse.dropWhile (· == '/') = path.toList.reverse := by
    cases hr : path.toList.reverse with
    | nil => rfl
    | cons c cs =>
      have hc : c ≠ '/' := by
        rintro rfl
        refine hlast ⟨cs.reverse, ?_⟩
        rw [← List.reverse_reverse path.toList, hr, List.reverse_cons]
      simp [hc]
  rw [withoutEndSlashes, hdrop, List.reverse_reverse, String.ofList_toList]

/-- A path that names no folder leads to a new file as it leads to one that is there. -/
theorem locate_of_locateNew (h : namesFolder path = false) (hl : t.locateNew path = .ok p) :
    t.locate path = .ok p := by
  rwa [locateNew, withoutEndSlashes_of_not_namesFolder h, ite_self] at hl

/-! ### Reading, writing and renaming -/

/-- **A text is read** from an accessible file that holds it. -/
theorem readText?_eq_some_iff : t.readText? path = .ok (some content) ↔
    ∃ p f, t.locate path = .ok p ∧ t.node? p = some (.file f) ∧ f.isAccessible ∧
      String.fromUTF8? f.content = some content := by
  unfold readText? readText read
  cases hl : t.locate path with
  | error e => cases e <;> simp [bind, Except.bind]
  | ok p =>
    cases hn : t.node? p with
    | none => simp [bind, Except.bind, hn]
    | some n =>
      cases n with
      | folder made => simp [bind, Except.bind, hn]
      | file f =>
        cases ha : f.isAccessible with
        | false => simp [bind, Except.bind, hn, ha]
        | true =>
          cases hs : String.fromUTF8? f.content <;> simp [bind, Except.bind, hn, ha, hs]

theorem readText_of_readText? (h : t.readText? path = .ok (some content)) :
    t.readText path = .ok content := by
  unfold readText? at h
  cases hr : t.readText path with
  | ok s =>
    rw [hr] at h
    simpa using h
  | error e => cases e <;> simp [hr] at h

/-- Whether writing puts a file to a place: an accessible one with the content and the time. -/
structure Writes (t : FileTree) (path : String) (bytes : ByteArray) (p : Place) (f : File) :
    Prop where
  written : t.write path bytes = .ok (t.put p (.file f))
  place : t.locate path = .ok p
  free : t.IsFree p
  accessible : f.isAccessible
  content : f.content = bytes
  modified : f.modified = t.clock

/-- **What writing does**: it puts a file to the place of the path. -/
theorem write_eq_ok {bytes : ByteArray} (h : t.write path bytes = .ok u) :
    ∃ p f, t.Writes path bytes p f ∧ u = t.put p (.file f) := by
  have hw := h
  unfold write at h
  cases hl : t.locateNew path with
  | error e => rw [hl] at h; simp [bind, Except.bind] at h
  | ok p =>
    rw [hl] at h
    simp only [bind, Except.bind] at h
    split at h
    · simp at h
    · next f hn =>
      split_ifs at h with hf ha
      obtain rfl := Except.ok.inj h
      have hl := locate_of_locateNew (by simpa using hf) hl
      exact ⟨p, _, ⟨hw, hl, isFree_of_file hn, ha, rfl, rfl⟩, rfl⟩
    · next hn =>
      split_ifs at h with hf
      obtain rfl := Except.ok.inj h
      have hl := locate_of_locateNew (by simpa using hf) hl
      exact ⟨p, _, ⟨hw, hl, by simp [IsFree, hn], rfl, rfl, rfl⟩, rfl⟩

/-- What renaming does: it takes a file from its place to a free one. -/
theorem rename_eq_ok {newPath : String} (h : t.rename path newPath = .ok u) :
    ∃ p f q, t.locate path = .ok p ∧ t.node? p = some (.file f) ∧ t.locate newPath = .ok q ∧
      t.IsFree q ∧ u = (t.erase p).put q (.file f) := by
  unfold rename at h
  cases hl : t.locate path with
  | error e => rw [hl] at h; simp [bind, Except.bind] at h
  | ok p =>
    rw [hl] at h
    simp only [bind, Except.bind] at h
    split at h
    · next f hn =>
      cases hq : t.locateNew newPath with
      | error e => rw [hq] at h; simp at h
      | ok q =>
        rw [hq] at h
        dsimp only at h
        split at h
        · simp at h
        · next hfree =>
          split_ifs at h with hf
          rw [Except.ok.injEq] at h
          exact ⟨p, f, q, rfl, hn, locate_of_locateNew (by simpa using hf) hq, hfree, h.symm⟩
    · simp at h
    · simp at h

/-- What removing does: it takes a file away. -/
theorem remove_eq_ok (h : t.remove path = .ok u) :
    ∃ p f, t.node? p = some (.file f) ∧ u = t.erase p := by
  unfold remove at h
  cases hl : t.locate path with
  | error e => rw [hl] at h; simp [bind, Except.bind] at h
  | ok p =>
    rw [hl] at h
    simp only [bind, Except.bind] at h
    split at h
    · next f hn =>
      rw [Except.ok.injEq] at h
      exact ⟨p, f, hn, h.symm⟩
    · simp at h
    · simp at h

theorem fromUTF8?_toUTF8 (s : String) : String.fromUTF8? s.toUTF8 = some s :=
  dif_pos s.isValidUTF8

/-- A file that was put somewhere is read with its text, by the paths that lead there. -/
theorem readText?_put {f : File} (hl : t.locate path = .ok p) (hp : t.IsFree p)
    (ha : f.isAccessible) (hc : f.content = content.toUTF8) :
    (t.put p (.file f)).readText? path = .ok (some content) := by
  refine readText?_eq_some_iff.mpr ⟨p, f, ?_, ?_, ha, ?_⟩
  · exact locate_of_keepsFolders (keepsFolders_put hp _) hl
  · rw [node?_put hp.ne_nil, if_pos rfl]
  · rw [hc, fromUTF8?_toUTF8]

/-! ### Replacing -/

/-- What moving a file does that has just been written. It is no folder, so it makes no difference
to where the other path leads. -/
theorem Writes.rename_eq_ok {bytes : ByteArray} {f : File} {newPath : String}
    (hw : t.Writes path bytes p f) (h : (t.put p (.file f)).rename path newPath = .ok u) :
    ∃ q, t.locate newPath = .ok q ∧ t.IsFree q ∧
      u = ((t.put p (.file f)).erase p).put q (.file f) := by
  obtain ⟨p', g, q, hp', hg, hq, hfree, rfl⟩ := FileTree.rename_eq_ok h
  -- the path still leads to the file that was written
  rw [locate_of_keepsFolders (keepsFolders_put hw.free _) hw.place, Except.ok.injEq] at hp'
  subst hp'
  rw [node?_put hw.free.ne_nil, if_pos rfl, Option.some.injEq, FileNode.file.injEq] at hg
  subst hg
  refine ⟨q, locate_of_keepsFolders (keepsFolders_of_put hw.free f) hq, fun made hm => ?_, rfl⟩
  exact hfree made ((keepsFolders_put hw.free _).folders q made hm)

/-- What replacing a file can come to. It is refused: the temporary file cannot be written, or the
device does not open it. Or it is given up, and the temporary file is there with what the device
takes of the text. Or the temporary file is moved to the place of the path. -/
inductive Replaces (t : FileTree) (path content : String) : Except FileError Unit × FileTree → Prop
  | refused (e : FileError)
    (h : (∃ cause, t.write (withEnding "tmp" path) (t.taken content.toUTF8) = .error cause) ∨
      ∃ cause, t.fault = some (.opening cause)) :
    Replaces t path content (.error e, t)
  | givenUp (e : FileError) {p : Place} {f : File}
    (hw : t.Writes (withEnding "tmp" path) (t.taken content.toUTF8) p f)
    (hf : ∀ cause, t.fault ≠ some (.opening cause)) :
    Replaces t path content (.error e, t.put p (.file f))
  | moved {p q : Place} {f : File} (hw : t.Writes (withEnding "tmp" path) content.toUTF8 p f)
    (hq : t.locate path = .ok q) (hfree : t.IsFree q) :
    Replaces t path content (.ok (), ((t.put p (.file f)).erase p).put q (.file f))

/-- **Replacing a file comes to** one of these. -/
theorem replaces (t : FileTree) (path content : String) :
    t.Replaces path content (t.replaceText path content) := by
  unfold replaceText
  dsimp only
  cases hwrite : t.write (withEnding "tmp" path) (t.taken content.toUTF8) with
  | error e => exact .refused e (Or.inl ⟨e, hwrite⟩)
  | ok t' =>
    obtain ⟨p, f, hw, rfl⟩ := write_eq_ok hwrite
    dsimp only
    rcases hf : t.fault with _ | ⟨cause⟩ | ⟨cause, taken⟩
    · dsimp only
      cases hr : (t.put p (.file f)).rename (withEnding "tmp" path) path with
      | error e => exact .givenUp e hw (by simp [hf])
      | ok t'' =>
        obtain ⟨q, hq, hfree, rfl⟩ := hw.rename_eq_ok hr
        rw [taken, hf] at hw
        exact .moved hw hq hfree
    · exact .refused cause (Or.inr ⟨cause, hf⟩)
    · exact .givenUp cause hw (by simp [hf])

theorem Replaces.readText? {r : Except FileError Unit × FileTree} (h : t.Replaces path content r)
    (hr : r.1 = .ok ()) : r.2.readText? path = .ok (some content) := by
  cases h with
  | refused | givenUp => simp at hr
  | @moved p q f hw hq hfree =>
    refine readText?_eq_some_iff.mpr ⟨q, f, ?_, ?_, hw.accessible, ?_⟩
    · exact locate_of_keepsFolders (keepsFolders_move hw.free hfree f) hq
    · rw [node?_put hfree.ne_nil, if_pos rfl]
    · rw [hw.content, fromUTF8?_toUTF8]

/-- **A file that was replaced** is read with its new text. -/
theorem readText?_replaceText (h : (t.replaceText path content).1 = .ok ()) :
    (t.replaceText path content).2.readText? path = .ok (some content) :=
  (t.replaces path content).readText? h

/-- Whether replacing a file cuts it off: the file is its own temporary file, and the device gives
it up while it is written. -/
def CutsOff (t : FileTree) (path : String) : Prop :=
  (∃ cause taken, t.fault = some (.writing cause taken)) ∧
    ∃ p, t.locate path = .ok p ∧ t.locate (withEnding "tmp" path) = .ok p

theorem Replaces.readText?_same {r : Except FileError Unit × FileTree}
    (h : t.Replaces path content r) (ht : t.readText? path = .ok (some content))
    (hcut : ¬ t.CutsOff path) : r.2.readText? path = .ok (some content) := by
  cases h with
  | refused => exact ht
  | @givenUp e p f hw hf =>
    obtain ⟨q, g, hq, hg, hga, hgc⟩ := readText?_eq_some_iff.mp ht
    by_cases hqp : q = p
    · subst hqp
      -- the device gives up no file at this place, so it has taken all of the text
      have htaken : t.taken content.toUTF8 = content.toUTF8 := by
        rw [taken]
        split
        · next cause n hfault => exact absurd ⟨⟨cause, n, hfault⟩, q, hq, hw.place⟩ hcut
        · rfl
      exact readText?_put hq hw.free hw.accessible (hw.content.trans htaken)
    · refine readText?_eq_some_iff.mpr ⟨q, g, ?_, ?_, hga, hgc⟩
      · exact locate_of_keepsFolders (keepsFolders_put hw.free _) hq
      · rw [node?_put hw.free.ne_nil, if_neg hqp, hg]
  | moved hw hq hfree => exact (Replaces.moved hw hq hfree).readText? rfl

/-- **Replacing a file by the text that it holds** leaves it readable with this text, even if
replacing fails, unless that cuts off the file. -/
theorem readText?_replaceText_same (h : t.readText? path = .ok (some content))
    (hcut : ¬ t.CutsOff path) :
    (t.replaceText path content).2.readText? path = .ok (some content) :=
  (t.replaces path content).readText?_same h hcut

end PathRouter.FileTree
