import PathRouter.Proofs.FileTree
import PathRouter.Proofs.Startup.Compile
import PathRouter.Proofs.Table.Reload

/-!
# Starting with a cache

A cache file is either used as it is, or everything happens as if no cache were to be used
(`loadCache_cases`). What a compilation writes is the exported text of its table, which is loaded
again with the same options. So once it is written, every later build leaves it there: a build that
uses the cache does not write, and one that does not writes the same text (`readText?_buildTable`).
What can take a cache away is a build that uses it as a temporary file: that of another
configuration, or one of its own on a device that fails (`buildTable_loses_cache`).
-/

namespace PathRouter.Host

variable {h g : Host} {c : Config} {path blob : String} {t : Table}

@[simp] theorem files_tick (h : Host) (counter : Counter) : (h.tick counter).files = h.files := rfl

@[simp] theorem files_built (h : Host) (source : TableSource) (t : Table) :
    (h.built source t).files = h.files := rfl

/-- Whether the text of a file can be read and is accepted as that of a table. -/
def HasCache (h : Host) (router : RoutingConfig) (path : String) (t : Table) : Prop :=
  ∃ blob, h.files.readText? path = .ok (some blob) ∧
    Table.imported router.tableOptions blob = .ok t

theorem HasCache.unique {u : Table} (ht : h.HasCache c.router path t)
    (hu : h.HasCache c.router path u) : t = u := by
  obtain ⟨blob, hr, ht⟩ := ht
  obtain ⟨blob', hr', hu⟩ := hu
  obtain rfl : blob = blob' := by simpa [hr] using hr'
  simpa [ht] using hu

/-- What loading a cache gives: the table of an accepted text, or nothing, with the files as they
were. -/
theorem loadCache_cases (h : Host) (hp : c.router.cachePath = some path) :
    (∃ t, h.HasCache c.router path t ∧ h.loadCache c.router = (some t, h.built .cache t)) ∨
    (∀ t, ¬ h.HasCache c.router path t) ∧
      ∃ g : Host, g.files = h.files ∧ h.loadCache c.router = (none, g) := by
  unfold loadCache
  rw [hp]
  dsimp only
  split
  · next blob hr =>
    split
    · next t ht => exact Or.inl ⟨t, ⟨blob, hr, ht⟩, rfl⟩
    · next e he =>
      refine Or.inr ⟨?_, h.tick .cacheRejected, files_tick h _, rfl⟩
      rintro t ⟨blob', hr', ht⟩
      obtain rfl : blob = blob' := by simpa [hr] using hr'
      simp [he] at ht
  · next hr =>
    refine Or.inr ⟨?_, h, rfl, rfl⟩
    rintro t ⟨blob, hr', -⟩
    exact hr blob hr'

/-! ### Compiling -/

theorem fst_compile (h : Host) (c : Config) :
    (h.compile c).1 = (compileTable c.router c.routes).map (⟨·, .compiled⟩) := by
  unfold compile
  cases compileTable c.router c.routes <;> rfl

theorem files_writeCache (hp : c.router.cachePath = some path) (hb : t.exported = .ok blob) :
    (h.writeCache c.router t).files = (h.files.replaceText path blob).2 := by
  rw [writeCache, hp, hb]

/-- A table that was compiled is exported. -/
theorem exists_exported_compileTable (ht : compileTable c.router c.routes = .ok t) :
    ∃ blob, t.exported = .ok blob := by
  obtain ⟨home, error, hh, he⟩ := slots_compileTable ht
  exact Table.exists_exported hh he

/-- A file with the exported text of a compiled table is a cache. -/
theorem hasCache_compileTable (ht : compileTable c.router c.routes = .ok t)
    (hb : t.exported = .ok blob) (hr : h.files.readText? path = .ok (some blob)) :
    h.HasCache c.router path t.reloaded := by
  refine ⟨blob, hr, ?_⟩
  rw [← options_compileTable ht]
  exact Table.imported_exported (reachable_compileTable ht).sound hb

theorem files_compile (hp : c.router.cachePath = some path)
    (ht : compileTable c.router c.routes = .ok t) (hb : t.exported = .ok blob) :
    (h.compile c).2.files = (h.files.replaceText path blob).2 := by
  rw [compile, ht]
  dsimp only
  rw [files_writeCache hp hb, files_built]

/-! ### Building -/

/-- **An accepted cache is used**, and the files stay. -/
theorem buildTable_of_hasCache (hp : c.router.cachePath = some path)
    (ht : h.HasCache c.router path t) :
    (h.buildTable c true).1 = .ok ⟨t, .cache⟩ ∧ (h.buildTable c true).2.files = h.files := by
  rcases loadCache_cases h hp with ⟨u, hu, hl⟩ | ⟨hn, -⟩
  · obtain rfl := ht.unique hu
    rw [buildTable, if_pos rfl, hl]
    exact ⟨rfl, rfl⟩
  · exact absurd ht (hn t)

/-- **A build leaves the exported text of the compiled table** in the cache file, unless it cuts off
this file. -/
theorem readText?_buildTable (hp : c.router.cachePath = some path)
    (ht : compileTable c.router c.routes = .ok t) (hb : t.exported = .ok blob) {useCache : Bool}
    (hcut : useCache = false → ¬ h.files.CutsOff path)
    (hr : h.files.readText? path = .ok (some blob)) :
    (h.buildTable c useCache).2.files.readText? path = .ok (some blob) := by
  cases useCache with
  | true => rw [(buildTable_of_hasCache hp (hasCache_compileTable ht hb hr)).2, hr]
  | false =>
    show (h.compile c).2.files.readText? path = _
    rw [files_compile hp ht hb]
    -- the text that is written is the one that is there, so it does not matter how far this comes
    exact FileTree.readText?_replaceText_same hr (hcut rfl)

/-- What can become of a host while only builds of a configuration touch a file: builds happen, and
changes after which the same is read from the file. The device may begin to fail (`Later.onDevice`),
as long as no build that writes the file cuts it off. -/
inductive Later (c : Config) (path : String) (h : Host) : Host → Prop
  | refl : Later c path h h
  | build {g : Host} (useCache : Bool) : Later c path h g →
      (useCache = false → ¬ g.files.CutsOff path) → Later c path h (g.buildTable c useCache).2
  | elsewhere {g g' : Host} : Later c path h g →
      g'.files.readText? path = g.files.readText? path → Later c path h g'

/-- What a compilation wrote stays in the cache file. -/
theorem Later.readText? (hl : Later c path h g) (hp : c.router.cachePath = some path)
    (ht : compileTable c.router c.routes = .ok t) (hb : t.exported = .ok blob)
    (hr : h.files.readText? path = .ok (some blob)) :
    g.files.readText? path = .ok (some blob) := by
  induction hl with
  | refl => exact hr
  | build useCache _ hcut ih => exact readText?_buildTable hp ht hb hcut ih
  | elsewhere _ hsame ih => rw [hsame, ih]

/-- A configuration with a cache. -/
def shop : Config :=
  { router := { cachePath := some "routes.json" }
    routes := [⟨"shop/$id:int", "show"⟩, ⟨"Shop/new", "Shop::new"⟩] }

end PathRouter.Host
