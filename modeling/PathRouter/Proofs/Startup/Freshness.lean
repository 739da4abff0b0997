import PathRouter.Proofs.Startup.Cache
import PathRouter.Server.Launch

/-!
# Whether a cache is fresh

A file takes the time of the clock when it is written, and the clock never goes back, so the times
of files follow the order in which they were written (`FileTree.pairwise_stamps`), but files that
are written on one tick have one time. What a change does to a tree is said once
(`FileTree.step_effect`); by induction a file that is there has the time at which its place was
written last (`FileTree.dated_run`). So a configuration that is written after its cache makes the
cache stale once the clock has moved on, and not before (`launch_of_rewritten`).

Replacing a file is one change, on one tick. A file that was written earlier and is moved into place
later keeps its earlier time; nothing is said about runs in which that happens.
-/

namespace PathRouter

namespace FileTree

/-! ### Changes -/

/-- Something that happens to files: time passes, the device begins or ceases to fail, or a file is
written, replaced or removed. -/
inductive Change where
  | pass (ticks : Nat)
  | device (fault : Option Fault)
  | write (path : String) (content : ByteArray)
  | replace (path content : String)
  | remove (path : String)

/-- What a change makes of a tree. One that fails changes nothing, except that replacing may leave
its temporary file. -/
def step (t : FileTree) : Change → FileTree
  | .pass ticks => { t with clock := t.clock + ticks }
  | .device fault => { t with fault }
  | .write path content => (t.write path content).toOption.getD t
  | .replace path content => (t.replaceText path content).2
  | .remove path => (t.remove path).toOption.getD t

/-- What changes make of a tree, one after another. -/
def run (t : FileTree) (es : List Change) : FileTree := es.foldl step t

/-- The place at which writing leaves a file, unless it fails. -/
def placeWritten? (t : FileTree) (path : String) (content : ByteArray) : Option Place :=
  match t.write path content with
  | .ok u => (u.locate path).toOption
  | .error _ => none

/-- The place at which replacing leaves a file. If it fails, that can be the temporary one, unless
the device does not open it. -/
def placeReplaced? (t : FileTree) (path content : String) : Option Place :=
  match t.replaceText path content with
  | (.ok _, u) => (u.locate path).toOption
  | (.error _, _) =>
    match t.fault with
    | some (.opening _) => none
    | _ => t.placeWritten? (withEnding "tmp" path) (t.taken content.toUTF8)

/-- The place at which a change leaves a file that it has written, if there is one. -/
def written? (t : FileTree) : Change → Option Place
  | .pass _ | .device _ | .remove _ => none
  | .write path content => t.placeWritten? path content
  | .replace path content => t.placeReplaced? path content

/-- The places at which changes write files, with the times, in order. -/
def stamps (t : FileTree) : List Change → List (Place × Nat)
  | [] => []
  | e :: es => ((t.written? e).map (·, t.clock)).toList ++ (t.step e).stamps es

variable {t u : FileTree} {p q : Place} {path content : String} {e : Change} {es : List Change}
  {m n : Nat}

/-- What a change does: time passes or the device changes, or a file is taken away, or a file with
the time of the clock is put to the place that is written. A file that replaces another one is first
put elsewhere. -/
inductive Effect (t : FileTree) : Option Place → FileTree → Prop
  | pass (ticks : Nat) : Effect t none { t with clock := t.clock + ticks }
  | device (fault : Option Fault) : Effect t none { t with fault }
  | erase {p : Place} (hp : t.IsFree p) : Effect t none (t.erase p)
  | put {p : Place} {f : File} (hp : t.IsFree p) (hm : f.modified = t.clock) :
      Effect t (some p) (t.put p (.file f))
  | move {p q : Place} {f : File} (hq : t.IsFree q) (hp : t.IsFree p)
      (hm : f.modified = t.clock) :
      Effect t (some p) (((t.put q (.file f)).erase q).put p (.file f))

theorem Effect.refl (t : FileTree) : t.Effect none t := .pass 0

theorem placeWritten?_of_error {bytes : ByteArray} {cause : FileError}
    (h : t.write path bytes = .error cause) : t.placeWritten? path bytes = none := by
  rw [placeWritten?, h]

theorem Writes.effect {bytes : ByteArray} {f : File} (h : t.Writes path bytes p f) :
    t.Effect (t.placeWritten? path bytes) (t.put p (.file f)) := by
  rw [placeWritten?, h.written]
  dsimp only
  rw [locate_of_keepsFolders (keepsFolders_put h.free _) h.place]
  exact .put h.free h.modified

theorem effect_replaceText (t : FileTree) (path content : String) :
    t.Effect (t.placeReplaced? path content) (t.replaceText path content).2 := by
  have hr := t.replaces path content
  unfold placeReplaced?
  generalize t.replaceText path content = r at hr ⊢
  cases hr with
  | refused e h =>
    dsimp only
    rcases h with ⟨cause, hw⟩ | ⟨cause, hf⟩
    · rw [placeWritten?_of_error hw]
      split
      · exact .refl t
      · exact .refl t
    · rw [hf]
      exact .refl t
  | @givenUp e p f hw hf =>
    dsimp only
    split
    · next cause hopening => exact absurd hopening (hf cause)
    · exact hw.effect
  | @moved p q f hw hq hfree =>
    dsimp only
    rw [locate_of_keepsFolders (keepsFolders_move hw.free hfree f) hq]
    exact .move hw.free hfree hw.modified

/-- **Every change** does that. -/
theorem step_effect (t : FileTree) (e : Change) : t.Effect (t.written? e) (t.step e) := by
  cases e with
  | pass ticks => exact Effect.pass ticks
  | device fault => exact Effect.device fault
  | write path content =>
    show t.Effect (t.placeWritten? path content) ((t.write path content).toOption.getD t)
    cases h : t.write path content with
    | error cause =>
      rw [placeWritten?_of_error h]
      exact Effect.refl t
    | ok u =>
      obtain ⟨p, f, hw, rfl⟩ := write_eq_ok h
      exact hw.effect
  | replace path content => exact effect_replaceText t path content
  | remove path =>
    show t.Effect none ((t.remove path).toOption.getD t)
    cases h : t.remove path with
    | error cause => exact Effect.refl t
    | ok u =>
      obtain ⟨p, f, hn, rfl⟩ := remove_eq_ok h
      exact Effect.erase (isFree_of_file hn)

/-! ### The times of files -/

/-- **The clock** never goes back. -/
theorem Effect.clock_le {w : Option Place} (h : t.Effect w u) : t.clock ≤ u.clock := by
  cases h with
  | pass ticks => exact Nat.le_add_right _ _
  | _ => exact le_rfl

/-- What is at a place is a file with some time, or there is nothing. -/
def Dated (t : FileTree) (p : Place) (n : Nat) : Prop :=
  ∀ node, t.node? p = some node → ∃ f, node = .file f ∧ f.modified = n

/-- **A change dates the place that it writes**, with the time of the clock. -/
theorem Effect.dated (h : t.Effect (some p) u) : u.Dated p t.clock := by
  intro node hn
  cases h with
  | @put _ f hp hm =>
    rw [node?_put hp.ne_nil, if_pos rfl, Option.some.injEq] at hn
    exact ⟨f, hn.symm, hm⟩
  | @move _ _ f hq hp hm =>
    rw [node?_put hp.ne_nil, if_pos rfl, Option.some.injEq] at hn
    exact ⟨f, hn.symm, hm⟩

/-- **Another place** keeps what it has, or loses it. -/
theorem Effect.node?_of_ne {w : Option Place} (h : t.Effect w u) (hw : w ≠ some p) :
    u.node? p = t.node? p ∨ u.node? p = none := by
  cases h with
  | pass | device => exact Or.inl rfl
  | @erase q hq =>
    rw [node?_erase hq.ne_nil]
    split_ifs
    · exact Or.inr rfl
    · exact Or.inl rfl
  | @put q f hq hm =>
    have hne : p ≠ q := fun hpq => hw (by rw [hpq])
    rw [node?_put hq.ne_nil, if_neg hne]
    exact Or.inl rfl
  | @move q r f hr hq hm =>
    have hne : p ≠ q := fun hpq => hw (by rw [hpq])
    rw [node?_put hq.ne_nil, if_neg hne, node?_erase hr.ne_nil, node?_put hr.ne_nil]
    split_ifs
    · exact Or.inr rfl
    · exact Or.inl rfl

theorem Dated.step (h : t.Dated p n) (hw : t.written? e ≠ some p) : (t.step e).Dated p n := by
  intro node hn
  rcases (step_effect t e).node?_of_ne hw with hsame | hnone
  · exact h node (hsame ▸ hn)
  · rw [hnone] at hn
    cases hn

/-- A place that is not written again keeps its date. -/
theorem Dated.run (h : t.Dated p n) (hes : ∀ w ∈ t.stamps es, w.1 ≠ p) :
    (t.run es).Dated p n := by
  induction es generalizing t with
  | nil => exact h
  | cons e es ih =>
    have hw : t.written? e ≠ some p := by
      intro hw
      refine hes (p, t.clock) ?_ rfl
      rw [stamps, hw]
      exact List.mem_append_left _ (List.mem_singleton_self _)
    exact ih (h.step hw) fun w hmem => hes w (List.mem_append_right _ hmem)

/-- **After all changes**, what is at a place has the time at which it was written last. -/
theorem dated_run {before after : List (Place × Nat)}
    (hes : t.stamps es = before ++ (p, n) :: after) (hlast : ∀ w ∈ after, w.1 ≠ p) :
    (t.run es).Dated p n := by
  induction es generalizing t before with
  | nil => simp [stamps] at hes
  | cons e es ih =>
    rw [stamps] at hes
    cases hw : t.written? e with
    | none =>
      rw [hw] at hes
      exact ih hes
    | some q =>
      rw [hw] at hes
      cases before with
      | cons w before => exact ih (List.cons.inj hes).2
      | nil =>
        -- this change writes the place for the last time
        obtain ⟨hhead, hrest⟩ := List.cons.inj hes
        obtain ⟨rfl, rfl⟩ : q = p ∧ t.clock = n := Prod.mk.inj hhead
        have hstep := step_effect t e
        rw [hw] at hstep
        refine hstep.dated.run ?_
        rw [show (t.step e).stamps es = after from hrest]
        exact hlast

theorem clock_le_of_mem_stamps {w : Place × Nat} (h : w ∈ t.stamps es) : t.clock ≤ w.2 := by
  induction es generalizing t with
  | nil => simp [stamps] at h
  | cons e es ih =>
    rcases List.mem_append.mp h with h | h
    · obtain ⟨p, -, rfl⟩ := Option.map_eq_some_iff.mp (Option.mem_toList.mp h)
      exact le_rfl
    · exact (step_effect t e).clock_le.trans (ih h)

/-- **The times follow the order** in which files are written. -/
theorem pairwise_stamps (t : FileTree) (es : List Change) :
    (t.stamps es).Pairwise fun v w => v.2 ≤ w.2 := by
  induction es generalizing t with
  | nil => exact .nil
  | cons e es ih =>
    rw [stamps]
    cases hw : t.written? e with
    | none => exact ih (t.step e)
    | some p =>
      exact .cons (fun w h => (step_effect t e).clock_le.trans (clock_le_of_mem_stamps h))
        (ih (t.step e))

theorem Dated.modified? (h : t.Dated p n) (hl : t.locate path = .ok p) :
    t.modified? path = none ∨ t.modified? path = some n := by
  unfold FileTree.modified?
  rw [hl]
  dsimp only
  cases hn : t.node? p with
  | none => exact Or.inl rfl
  | some node =>
    obtain ⟨f, rfl, rfl⟩ := h node hn
    exact Or.inr rfl

end FileTree

/-! ### Starting with a stale cache -/

variable {files : FileTree} {cache config : String} {p q : Place} {m n : Nat}

/-- Files with known times are compared by these. -/
theorem cacheIsFresh_iff (hq : files.locate cache = .ok q) (hm : files.Dated q m)
    (hp : files.locate config = .ok p) (hn : files.Dated p n) :
    cacheIsFresh files cache config ↔
      n ≤ m ∧ (files.modified? cache).isSome ∧ (files.modified? config).isSome := by
  unfold cacheIsFresh
  rcases hm.modified? hq with h | h
  · simp [h]
  · rcases hn.modified? hp with h' | h'
    · simp [h, h']
    · simp [h, h']

namespace LaunchOptions

variable {o : LaunchOptions} {h : Host} {c : Config}

/-- What is live in a server that is launched, and where its table was taken from. -/
theorem fst_launch (hc : o.configuration h.files = .ok c) :
    (o.launch h).1.map (fun s => (s.1.live, s.2)) =
      ((h.buildTable c (o.usesCache h.files c)).1.mapError LaunchError.compile).map
        fun b => (⟨b.table, c.aliasRegistry⟩, b.source) := by
  rw [launch, hc]
  dsimp only
  rcases h.buildTable c (o.usesCache h.files c) with ⟨e | b, g⟩ <;> rfl

theorem configuration_eq (ho : o.config = some config) (files : FileTree) :
    o.configuration files = Config.load files config := by
  rw [configuration, ho]

theorem usesCache_eq (hc : c.router.cachePath = some cache) (ho : o.config = some config)
    (files : FileTree) : o.usesCache files c = (!o.noCache && cacheIsFresh files cache config) := by
  rw [usesCache, hc, ho]

/-- **A server whose cache is stale** compiles the configuration that it loads. -/
theorem launch_of_stale (ho : o.config = some config) (hload : Config.load h.files config = .ok c)
    (hc : c.router.cachePath = some cache) (hs : cacheIsFresh h.files cache config = false) :
    (o.launch h).1.map (fun s => (s.1.live, s.2)) =
      ((compileTable c.router c.routes).mapError LaunchError.compile).map
        (⟨·, c.aliasRegistry⟩, .compiled) := by
  have hbuild : (h.buildTable c false).1 = _ := h.fst_compile c
  rw [fst_launch ((configuration_eq ho h.files).trans hload), usesCache_eq hc ho, hs,
    Bool.and_false, hbuild]
  cases compileTable c.router c.routes <;> rfl

/-- A server whose cache is fresh serves what is in it, if that is accepted. -/
theorem launch_of_fresh {t : Table} (ho : o.config = some config)
    (hload : Config.load h.files config = .ok c) (hc : c.router.cachePath = some cache)
    (hno : o.noCache = false) (hs : cacheIsFresh h.files cache config = true)
    (ht : h.HasCache c.router cache t) :
    (o.launch h).1.map (fun s => (s.1.live, s.2)) = .ok (⟨t, c.aliasRegistry⟩, .cache) := by
  rw [fst_launch ((configuration_eq ho h.files).trans hload), usesCache_eq hc ho, hs, hno,
    Bool.not_false, Bool.and_true, (Host.buildTable_of_hasCache hc ht).1]
  rfl

end LaunchOptions

/-- **A configuration that is written after its cache makes it stale**, once the clock has moved on.
Let files be written, replaced and removed while time passes, and let a cache and then its
configuration be written for the last time. The configuration is not older, and the cache counts as
fresh exactly if both have one time and are still there. If the clock has moved on in between, the
cache does not count as fresh, and every server that is launched with the configuration compiles it
as it is now. -/
theorem launch_of_rewritten {t : FileTree} {es : List FileTree.Change}
    {xs ys zs : List (Place × Nat)} (hes : t.stamps es = xs ++ (q, m) :: (ys ++ (p, n) :: zs))
    (hcache : ∀ w ∈ ys ++ (p, n) :: zs, w.1 ≠ q) (hconfig : ∀ w ∈ zs, w.1 ≠ p)
    (hq : (t.run es).locate cache = .ok q) (hp : (t.run es).locate config = .ok p) :
    m ≤ n ∧
    (cacheIsFresh (t.run es) cache config ↔ m = n ∧
      ((t.run es).modified? cache).isSome ∧ ((t.run es).modified? config).isSome) ∧
    (m < n → cacheIsFresh (t.run es) cache config = false ∧
      ∀ (o : LaunchOptions) (c : Config) (metrics : Metrics), o.config = some config →
        Config.load (t.run es) config = .ok c → c.router.cachePath = some cache →
        (o.launch ⟨t.run es, metrics⟩).1.map (fun s => (s.1.live, s.2)) =
          ((compileTable c.router c.routes).mapError LaunchError.compile).map
            (⟨·, c.aliasRegistry⟩, .compiled)) := by
  have hle : m ≤ n := by
    have hpairwise := FileTree.pairwise_stamps t es
    rw [hes] at hpairwise
    obtain ⟨-, hlater, -⟩ := List.pairwise_append.mp hpairwise
    exact (List.pairwise_cons.mp hlater).1 (p, n) (by simp)
  have hes' : t.stamps es = (xs ++ (q, m) :: ys) ++ (p, n) :: zs := by
    rw [hes, List.append_assoc]
    rfl
  have hfresh := cacheIsFresh_iff hq (FileTree.dated_run hes hcache) hp
    (FileTree.dated_run hes' hconfig)
  have hiff : cacheIsFresh (t.run es) cache config ↔ m = n ∧
      ((t.run es).modified? cache).isSome ∧ ((t.run es).modified? config).isSome := by
    rw [hfresh]
    constructor
    · rintro ⟨hge, h⟩
      exact ⟨le_antisymm hle hge, h⟩
    · rintro ⟨rfl, h⟩
      exact ⟨le_rfl, h⟩
  refine ⟨hle, hiff, fun hlt => ?_⟩
  have hstale : cacheIsFresh (t.run es) cache config = false := by
    rw [← Bool.not_eq_true, hiff]
    exact fun h => absurd h.1 (ne_of_lt hlt)
  exact ⟨hstale, fun o c metrics ho hc hcachePath =>
    LaunchOptions.launch_of_stale ho hc hcachePath hstale⟩

/-- A configuration with a cache and one route. -/
def oneRoute (path : String) : Config :=
  { router := { cachePath := some "routes.json" }, routes := [⟨path, "home"⟩] }

/-- Its text. -/
def oneRouteText (path : String) : String :=
  "[router]\ncache_path = \"routes.json\"\n[[routes]]\npath = \"" ++ path ++
    "\"\ncallback = \"home\"\n"

/-- The text of its cache. -/
def oneRouteCache (path : String) : String :=
  match compileTable (oneRoute path).router (oneRoute path).routes with
  | .ok t => t.exported.toOption.getD ""
  | .error _ => ""

/-- A configuration that is written again after its cache, when some time has passed. -/
def rewritten (ticks : Nat) : List FileTree.Change :=
  [.write "router.toml" (oneRouteText "a").toUTF8, .pass 1,
    .replace "routes.json" (oneRouteCache "a"), .pass ticks,
    .write "router.toml" (oneRouteText "b").toUTF8]

/-- The files then. -/
def rewrittenFiles (ticks : Nat) : FileTree := ({} : FileTree).run (rewritten ticks)

/-- The arguments of a server that is launched with the configuration. -/
def launched : LaunchOptions := { config := some "router.toml" }

theorem launch_of_rewritten_later :
    cacheIsFresh (rewrittenFiles 1) "routes.json" "router.toml" = false ∧
    (launched.launch ⟨rewrittenFiles 1, {}⟩).1.map (fun s => (s.1.live, s.2)) =
      ((compileTable (oneRoute "b").router (oneRoute "b").routes).mapError
        LaunchError.compile).map (⟨·, (oneRoute "b").aliasRegistry⟩, .compiled) := by
  have hstamps : ({} : FileTree).stamps (rewritten 1) =
      [(["router.toml"], 0)] ++ (["routes.json"], 1) :: ([] ++ (["router.toml"], 2) :: []) := by
    decide +kernel
  have hcache : (rewrittenFiles 1).locate "routes.json" = .ok ["routes.json"] := by decide +kernel
  have hconfig : (rewrittenFiles 1).locate "router.toml" = .ok ["router.toml"] := by decide +kernel
  have hload : Config.load (rewrittenFiles 1) "router.toml" = .ok (oneRoute "b") := by
    decide +kernel
  obtain ⟨-, -, hstale⟩ := launch_of_rewritten hstamps (by decide) (by simp) hcache hconfig
  obtain ⟨hfresh, hlaunch⟩ := hstale (by decide)
  exact ⟨hfresh, hlaunch launched (oneRoute "b") {} rfl hload rfl⟩

/-- **On one tick** a cache counts as fresh although its configuration was written after it, and a
server that is launched serves the routes of the earlier one. -/
theorem cacheIsFresh_same_tick :
    ({} : FileTree).stamps (rewritten 0) =
      [(["router.toml"], 0), (["routes.json"], 1), (["router.toml"], 1)] ∧
    Config.load (rewrittenFiles 0) "router.toml" = .ok (oneRoute "b") ∧
    cacheIsFresh (rewrittenFiles 0) "routes.json" "router.toml" = true ∧
    ∃ t, compileTable (oneRoute "a").router (oneRoute "a").routes = .ok t ∧
      (launched.launch ⟨rewrittenFiles 0, {}⟩).1.map (fun s => (s.1.live, s.2)) =
        .ok (⟨t.reloaded, (oneRoute "b").aliasRegistry⟩, .cache) := by
  have hload : Config.load (rewrittenFiles 0) "router.toml" = .ok (oneRoute "b") := by
    decide +kernel
  have hfresh : cacheIsFresh (rewrittenFiles 0) "routes.json" "router.toml" = true := by
    decide +kernel
  obtain ⟨t, ht⟩ : ∃ t, compileTable (oneRoute "a").router (oneRoute "a").routes = .ok t :=
    ⟨_, rfl⟩
  refine ⟨by decide +kernel, hload, hfresh, t, ht, ?_⟩
  obtain ⟨blob, hb⟩ := Host.exists_exported_compileTable ht
  have hblob : oneRouteCache "a" = blob := by
    rw [oneRouteCache, ht]
    dsimp only
    rw [hb]
    rfl
  have hfile : (rewrittenFiles 0).node? ["routes.json"] =
      some (.file ⟨(oneRouteCache "a").toUTF8, 1, true⟩) := by
    with_unfolding_all rfl
  rw [hblob] at hfile
  have hread : (rewrittenFiles 0).readText? "routes.json" = .ok (some blob) :=
    FileTree.readText?_eq_some_iff.mpr
      ⟨_, _, by decide +kernel, hfile, rfl, FileTree.fromUTF8?_toUTF8 blob⟩
  have hp : (oneRoute "b").router.cachePath = some "routes.json" := rfl
  have hhas : Host.HasCache ⟨rewrittenFiles 0, {}⟩ (oneRoute "b").router "routes.json" t.reloaded :=
    Host.hasCache_compileTable (c := oneRoute "a") ht hb hread
  exact LaunchOptions.launch_of_fresh rfl hload hp rfl hfresh hhas

end PathRouter
