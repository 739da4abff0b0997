import PathRouter.Proofs.FileTree
import PathRouter.Proofs.Startup.Compile
import PathRouter.Proofs.Table.Reload
import PathRouter.Tool.Command

/-!
# The tool and the caches that it writes

The tool writes the exported text of the table of a configuration (`runOn_compile`). It reads a cache
without the configuration, and so with the default limit of segments. A table is loaded from its text
with any limit that its routes keep, and with no other (`tableOf_exported`). Within the default limit
the tool reads what it wrote and answers as with the configuration; beyond it the cache is refused as
a whole (`runOn_inspect_iff`, `runOn_resolveCache_iff`, `cache_of_compile`).
-/

namespace PathRouter

/-- Whether the templates of a configuration have at most so many segments. -/
def Config.Within (c : Config) (limit : Nat) : Prop :=
  ∀ d ∈ c.routes, (Text.segments d.path.toList).length ≤ limit

instance (c : Config) (limit : Nat) : Decidable (c.Within limit) :=
  inferInstanceAs (Decidable (∀ d ∈ c.routes, (Text.segments d.path.toList).length ≤ limit))

/-- The routes of a compiled table have as many segments as their templates. -/
theorem within_iff {c : Config} {t : Table} (h : compileTable c.router c.routes = .ok t)
    (limit : Nat) : c.Within limit ↔ ∀ r ∈ t.buckets.routes, r.segments.length ≤ limit := by
  constructor
  · intro hw r hr
    obtain ⟨d, hd, -, hr⟩ := (mem_routes_compileTable h).mp hr
    obtain ⟨ss, hs, rfl⟩ := Route.compile_eq_ok hr
    exact (Template.length_of_read hs).trans_le (hw d hd)
  · intro hl d hd
    by_cases hroot : Template.isRoot d.path
    · rw [Template.segments_of_isRoot hroot]
      exact Nat.zero_le limit
    · obtain ⟨ss, hs⟩ := (read_of_compileTable h hd).resolve_left hroot
      have hr : Route.compile c.router.maxSegments d.path (.ofText d.callback) =
          .ok (.ofSegments ss (.ofText d.callback)) := by
        rw [Route.compile, hs]
        rfl
      rw [← Template.length_of_read hs]
      exact hl _ ((mem_routes_compileTable h).mpr ⟨d, hd, hroot, hr⟩)

namespace Tool.Command

variable {c : Config} {t : Table} {config cache blob printed : String} {out : Option String}
  {files files' : FileTree}

/-- **What compiling does**: the exported text of the table is what is read from the cache file
afterwards. -/
theorem runOn_compile (h : (compile config out).runOn files = (.ok printed, files')) :
    ∃ c t cache blob, configOf (files.readText config) = .ok c ∧
      compileTable c.router c.routes = .ok t ∧ (out <|> c.router.cachePath) = some cache ∧
      t.exported = .ok blob ∧ files'.readText cache = .ok blob := by
  unfold runOn at h
  split at h
  · cases h
  · next effect he =>
    simp only [run, source, bind_eq_ok] at he
    obtain ⟨c, hc, t, ht, he⟩ := he
    split at he
    · cases he
    · next cache hcache =>
      simp only [bind_eq_ok, mapError_eq_ok, Except.ok.injEq] at he ht
      obtain ⟨blob, hb, rfl⟩ := he
      refine ⟨c, t, cache, blob, hc, ht, hcache, hb, ?_⟩
      dsimp only at h
      obtain ⟨hprinted, rfl⟩ := Prod.mk.inj h
      obtain ⟨u, hu, -⟩ := map_eq_ok.mp hprinted
      exact FileTree.readText_of_readText? (FileTree.readText?_replaceText (mapError_eq_ok.mp hu))

/-- **What is loaded from the exported text of a table**: the table, if its routes keep the default
limit, and else nothing. -/
theorem tableOf_exported (ht : compileTable c.router c.routes = .ok t)
    (hb : t.exported = .ok blob) (cache : String) (baseUrl : Option String) :
    (c.Within Template.defaultLimit →
      tableOf cache baseUrl (.ok blob) = .ok { t.reloaded with options := { baseUrl } }) ∧
    (¬ c.Within Template.defaultLimit → ∃ n, tableOf cache baseUrl (.ok blob) =
      .error (.cache (.malformed .segments (.tooManySegments n Template.defaultLimit)))) := by
  have hsound := (reachable_compileTable ht).sound
  constructor
  · intro hw
    rw [tableOf, Table.imported_exported_of_le { baseUrl } hsound hb ((within_iff ht _).mp hw)]
    rfl
  · intro hw
    rw [within_iff ht] at hw
    push Not at hw
    obtain ⟨n, hn⟩ := Table.imported_exported_of_lt { baseUrl } hsound hb hw
    refine ⟨n, ?_⟩
    rw [tableOf, hn]
    rfl

/-- A table whose slots are set is listed. -/
theorem exists_listing {home error : Route} (hh : t.home = some home) (he : t.error = some error) :
    ∃ s, listing t = .ok s := by
  unfold listing Table.homeRoute Table.errorRoute
  rw [hh, he]
  exact ⟨_, rfl⟩

/-- A table whose slots are set answers all paths. -/
theorem exists_resolved {home error : Route} (hh : t.home = some home) (he : t.error = some error)
    (paths : List String) : ∃ output, resolved t paths = .ok { output } := by
  choose f hf using Table.exists_resolve hh he
  have hitems : (paths.mapM fun p => ((t.resolve p).map (describe p)).mapError ToolError.unset) =
      .ok (paths.map fun p => describe p (f p)) := by
    simp only [hf]
    exact List.mapM_pure
  rw [resolved, hitems]
  exact ⟨_, rfl⟩

/-- A table and what is loaded from its text answer paths alike, if the base URL is the same. -/
theorem resolved_reloaded {options : TableOptions} (h : options.baseUrl = t.options.baseUrl)
    (paths : List String) : resolved { t.reloaded with options } paths = resolved t paths := by
  have hitem : ∀ p, ({ t.reloaded with options }.resolve p).map (describe p) =
      (t.resolve p).map (describe p) := by
    intro p
    rw [Table.resolve_options t.reloaded h, Table.resolve_reloaded]
    cases t.resolve p <;> rfl
  simp only [resolved, hitem]

/-! ### Commands -/

theorem runOn_of_run_eq_ok {command : Command} {output : String}
    (h : command.run (files.readText command.source) = .ok { output }) :
    command.runOn files = (.ok output, files) := by
  rw [runOn, h]

/-- Whether a command reads a cache file and gives an answer for the table in it. -/
structure Reads (command : Command) (cache : String) (baseUrl : Option String)
    (answer : Table → Except ToolError Effect) : Prop where
  source : command.source = cache
  run : ∀ content, command.run content = tableOf cache baseUrl content >>= answer

section Written
variable (ht : compileTable c.router c.routes = .ok t) (hb : t.exported = .ok blob)
  (hr : files.readText cache = .ok blob)
include ht hb hr

/-- **A command on a cache that was written** gives its answer for the loaded table if the default
limit is kept, and else no answer. -/
theorem Reads.runOn {command : Command} {baseUrl : Option String} {output : String}
    {answer : Table → Except ToolError Effect} (hreads : Reads command cache baseUrl answer)
    (ha : answer { t.reloaded with options := { baseUrl } } = .ok { output }) :
    (c.Within Template.defaultLimit → command.runOn files = (.ok output, files)) ∧
    (¬ c.Within Template.defaultLimit → ∃ n, command.runOn files = (.error
      (.cache (.malformed .segments (.tooManySegments n Template.defaultLimit))), files)) := by
  obtain ⟨hwithin, hbeyond⟩ := tableOf_exported ht hb cache baseUrl
  constructor
  · intro hw
    refine runOn_of_run_eq_ok ?_
    rw [hreads.source, hreads.run, hr, hwithin hw]
    exact ha
  · intro hw
    obtain ⟨n, hn⟩ := hbeyond hw
    refine ⟨n, ?_⟩
    rw [Command.runOn, hreads.source, hreads.run, hr, hn]
    rfl

/-- A cache that was written is listed if and only if the default limit is kept. -/
theorem runOn_inspect_iff : (∃ text, (inspect cache).runOn files = (.ok text, files)) ↔
    c.Within Template.defaultLimit := by
  obtain ⟨home, error, hh, he⟩ := slots_compileTable ht
  obtain ⟨s, hs⟩ : ∃ s, listing { t.reloaded with options := {} } = .ok s :=
    exists_listing (congrArg (Option.map Route.reloaded) hh)
      (congrArg (Option.map Route.reloaded) he)
  have hreads : Reads (inspect cache) cache none fun t =>
      (listing t).mapError ToolError.unset >>= fun output => .ok { output } := ⟨rfl, fun _ => rfl⟩
  obtain ⟨hwithin, hbeyond⟩ := hreads.runOn ht hb hr (by rw [hs]; rfl)
  constructor
  · rintro ⟨text, htext⟩
    by_contra hw
    obtain ⟨n, hn⟩ := hbeyond hw
    simp [hn] at htext
  · exact fun hw => ⟨s, hwithin hw⟩

/-- Paths are resolved with a cache that was written as with the table if and only if the default
limit is kept. -/
theorem runOn_resolveCache_iff {paths : List String} {text : String}
    (htext : resolved t paths = .ok { output := text }) :
    (resolveCache cache c.router.baseUrl paths).runOn files = (.ok text, files) ↔
      c.Within Template.defaultLimit := by
  have hbase : c.router.baseUrl = t.options.baseUrl := by rw [options_compileTable ht]; rfl
  have hreads : Reads (resolveCache cache c.router.baseUrl paths) cache c.router.baseUrl
      fun t => resolved t paths := ⟨rfl, fun _ => rfl⟩
  obtain ⟨hwithin, hbeyond⟩ := hreads.runOn ht hb hr ((resolved_reloaded hbase paths).trans htext)
  refine ⟨fun h => ?_, hwithin⟩
  by_contra hw
  obtain ⟨n, hn⟩ := hbeyond hw
  simp [hn] at h

end Written

/-- Compiling succeeds if the configuration is read and compiles and the cache can be written. -/
theorem exists_runOn_compile (hc : configOf (files.readText config) = .ok c)
    (ht : compileTable c.router c.routes = .ok t)
    (hcache : (out <|> c.router.cachePath) = some cache)
    (hw : ∀ blob, (files.replaceText cache blob).1 = .ok ()) :
    ∃ printed files', (compile config out).runOn files = (.ok printed, files') := by
  obtain ⟨home, error, hh, he⟩ := slots_compileTable ht
  obtain ⟨blob, hb⟩ := Table.exists_exported hh he
  refine ⟨s!"compiled {Text.digits t.size} routes into {cache}\n",
    (files.replaceText cache blob).2, ?_⟩
  have hrun : (compile config out).run (files.readText config) =
      .ok ⟨s!"compiled {Text.digits t.size} routes into {cache}\n", some (cache, blob)⟩ := by
    simp [run, hc, ht, hcache, hb, bind, Except.bind, Except.mapError]
  rw [runOn, source, hrun]
  simp [hw blob, Except.mapError, Except.map]

/-- **The tool and the caches that it writes.** When compiling a configuration writes a cache, the
cache can be listed, and paths are resolved with it as with the configuration, if and only if no
template of the configuration has more segments than the default limit. -/
theorem cache_of_compile (h : (compile config out).runOn files = (.ok printed, files')) :
    ∃ c cache, configOf (files.readText config) = .ok c ∧
      (out <|> c.router.cachePath) = some cache ∧
      ∀ later, later.readText cache = files'.readText cache →
        ((∃ text, (inspect cache).runOn later = (.ok text, later)) ↔
          c.Within Template.defaultLimit) ∧
        ∀ before, before.readText config = files.readText config → ∀ paths, ∃ text,
          (resolveConfig config paths).runOn before = (.ok text, before) ∧
          ((resolveCache cache c.router.baseUrl paths).runOn later = (.ok text, later) ↔
            c.Within Template.defaultLimit) := by
  obtain ⟨c, t, cache, blob, hc, ht, hcache, hb, hwritten⟩ := runOn_compile h
  obtain ⟨home, error, hh, he⟩ := slots_compileTable ht
  refine ⟨c, cache, hc, hcache, fun later hlater => ?_⟩
  have hr : later.readText cache = .ok blob := hlater.trans hwritten
  refine ⟨runOn_inspect_iff ht hb hr, fun before hbefore paths => ?_⟩
  obtain ⟨text, htext⟩ := exists_resolved hh he paths
  refine ⟨text, runOn_of_run_eq_ok ?_, runOn_resolveCache_iff ht hb hr htext⟩
  rw [run, source, hbefore, hc]
  show ((compileTable c.router c.routes).mapError ToolError.compile >>= _) = _
  rw [ht]
  exact htext

/-- A folder with a configuration file. -/
def folderWith (text : String) : FileTree :=
  ({} : FileTree).put ["router.toml"] (.file ⟨text.toUTF8, 0, true⟩)

theorem readText_folderWith (text : String) :
    (folderWith text).readText "router.toml" = .ok text := by
  have hl : ({} : FileTree).locate "router.toml" = .ok ["router.toml"] := by
    with_unfolding_all rfl
  have hfree : ({} : FileTree).IsFree ["router.toml"] := by
    intro made hm
    simp [FileTree.node?] at hm
  exact FileTree.readText_of_readText? (FileTree.readText?_put hl hfree rfl rfl)

theorem replaceText_folderWith (text blob : String) :
    ((folderWith text).replaceText "routes.json" blob).1 = .ok () := by
  with_unfolding_all rfl

/-- A configuration with a base URL, a priority and a limit of its own. -/
def shopText : String :=
  "[router]\nbase_url = \"/app\"\npriority = \"last_wins\"\nmax_segments = 20\n" ++
  "[[routes]]\npath = \"shop/$id:int\"\ncallback = \"Shop::show\"\n"

def shop : Config :=
  { router := { baseUrl := some "/app", priority := .lastWins, maxSegments := 20 }
    routes := [⟨"shop/$id:int", "Shop::show"⟩] }

theorem cache_of_compile_shop : ∃ printed files' text,
    (compile "router.toml" (some "routes.json")).runOn (folderWith shopText) =
      (.ok printed, files') ∧
    (resolveConfig "router.toml" ["/app/shop/7", "/"]).runOn (folderWith shopText) =
      (.ok text, folderWith shopText) ∧
    (resolveCache "routes.json" (some "/app") ["/app/shop/7", "/"]).runOn files' =
      (.ok text, files') := by
  have hc : configOf ((folderWith shopText).readText "router.toml") = .ok shop := by
    rw [readText_folderWith]
    decide +kernel
  obtain ⟨t, ht⟩ : ∃ t, compileTable shop.router shop.routes = .ok t := ⟨_, rfl⟩
  have hout : (some "routes.json" <|> shop.router.cachePath) = some "routes.json" := rfl
  obtain ⟨printed, files', h⟩ := exists_runOn_compile hc ht hout
    (replaceText_folderWith shopText)
  obtain ⟨c, cache, hc', hcache, hall⟩ := cache_of_compile h
  obtain rfl : shop = c := Except.ok.inj (hc.symm.trans hc')
  obtain rfl : "routes.json" = cache := Option.some.inj hcache
  obtain ⟨-, hresolve⟩ := hall files' rfl
  obtain ⟨text, hconfig, hiff⟩ := hresolve _ rfl ["/app/shop/7", "/"]
  exact ⟨printed, files', text, h, hconfig, hiff.mpr (by decide)⟩

/-- A configuration that allows more segments than the default, and uses them. -/
def deepText : String :=
  "[router]\nmax_segments = 16\n[[routes]]\npath = \"a/a/a/a/a/a/a/a/a/a/a/a/a/a/a/a\"\n" ++
  "callback = \"echo\"\n"

def deep : Config :=
  { router := { maxSegments := 16 }, routes := [⟨"a/a/a/a/a/a/a/a/a/a/a/a/a/a/a/a", "echo"⟩] }

/-- **The tool can write a cache that it does not read.** -/
theorem inspect_refuses_deep : ∃ printed files',
    (compile "router.toml" (some "routes.json")).runOn (folderWith deepText) =
      (.ok printed, files') ∧
    ¬ ∃ text, (inspect "routes.json").runOn files' = (.ok text, files') := by
  have hc : configOf ((folderWith deepText).readText "router.toml") = .ok deep := by
    rw [readText_folderWith]
    decide +kernel
  obtain ⟨t, ht⟩ : ∃ t, compileTable deep.router deep.routes = .ok t := ⟨_, rfl⟩
  have hout : (some "routes.json" <|> deep.router.cachePath) = some "routes.json" := rfl
  obtain ⟨printed, files', h⟩ := exists_runOn_compile hc ht hout
    (replaceText_folderWith deepText)
  refine ⟨printed, files', h, ?_⟩
  obtain ⟨c, u, cache, blob, hc', hu, hcache, hb, hr⟩ := runOn_compile h
  obtain rfl : deep = c := Except.ok.inj (hc.symm.trans hc')
  obtain rfl : "routes.json" = cache := Option.some.inj hcache
  rw [runOn_inspect_iff hu hb hr]
  decide

end Tool.Command

end PathRouter
