import PathRouter.Proofs.Server.Reload

/-!
# What a running server counts

The counters are kept apart from what they count: a path is counted where it is resolved, a failure
where a request is answered, and a table where it is built, before it is live. They agree with the
requests and the updates nevertheless, whatever order these come in. What it means that they agree,
and what one request or one update changes, is said of the counters alone (`Metrics.Accounts`). A
step of a server is one of these changes (`Traffic.Accounted.step`). That takes two facts about what
is live: a table that was compiled answers every path, so resolving always counts an outcome; and no
handler of the router answers as if dispatching had failed. By induction the counters agree after
all events (`Traffic.run_accounted`).
-/

namespace PathRouter

/-- How often any of some things was counted. -/
def Metrics.total (m : Metrics) (cs : List Counter) : Nat := (cs.map m.count).sum

theorem Metrics.total_tick (m : Metrics) (c : Counter) (cs : List Counter) :
    (m.tick c).total cs = m.total cs + cs.count c := by
  unfold total
  induction cs with
  | nil => rfl
  | cons d cs ih =>
    have hd : (m.tick c).count d = m.count d + if d == c then 1 else 0 := by simp
    rw [List.map_cons, List.sum_cons, List.map_cons, List.sum_cons, ih, hd, List.count_cons]
    omega

theorem Metrics.total_recordBuild (m : Metrics) {source : TableSource} (routes : Nat)
    {cs : List Counter} (h : .tableBuilds source ∉ cs) :
    (m.recordBuild source routes).total cs = m.total cs := by
  show (m.tick (.tableBuilds source)).total cs = m.total cs
  rw [total_tick, List.count_eq_zero_of_not_mem h, Nat.add_zero]

theorem Metrics.count_tick_of_ne {m : Metrics} {c d : Counter} (h : d ≠ c) :
    (m.tick c).count d = m.count d := by
  rw [count_tick, if_neg h, Nat.add_zero]

namespace Counter

/-- The counters of resolved paths. -/
def outcomes : List Counter :=
  [.resolutions .home, .resolutions .matched, .resolutions .notFound]

/-- The counters of dispatches that fail for want of an alias or a handler. -/
def failures : List Counter :=
  [.dispatchErrors .unresolvedAlias, .dispatchErrors .unresolvedHandler]

/-- What a running server counts. -/
def served : List Counter := .tableBuilds .compiled :: outcomes ++ failures

theorem count_outcomes (outcome : Outcome) : outcomes.count (.resolutions outcome) = 1 := by
  cases outcome <;> decide

theorem count_failures (cause : FireError) :
    failures.count (.dispatchErrors (DispatchError.fire cause).failure) = 1 := by
  cases cause <;> rfl

theorem outcome_mem_served (outcome : Outcome) : .resolutions outcome ∈ served := by
  cases outcome <;> decide

/-- No failure is counted as one of an unknown kind. -/
theorem name_ne_other (k : Counter) :
    k.name ≠ labelled "router_dispatch_errors_total" "kind" "other" := by
  rcases k with ⟨⟨⟩⟩ | ⟨⟨⟩⟩ | ⟨⟩ | ⟨⟨⟩⟩ <;> decide +kernel

theorem failure_mem_served (cause : FireError) :
    .dispatchErrors (DispatchError.fire cause).failure ∈ served := by
  cases cause <;> simp [served, failures, DispatchError.failure]

end Counter

/-! ### What answers of handlers look like -/

namespace Response

theorem json_ne_dispatchFailed (body : String) (status : Nat) :
    json body status ≠ dispatchFailed := by
  intro h
  have htype : "application/json" = "text/plain; charset=utf-8" := congrArg contentType h
  exact absurd htype (by decide)

theorem cacheDump_ne_dispatchFailed (live : Table) : cacheDump live ≠ dispatchFailed := by
  unfold cacheDump
  split
  · exact json_ne_dispatchFailed _ _
  · decide

/-- **No handler of the router** answers as if dispatching had failed. -/
theorem builtin_ne_dispatchFailed {live : Table} {c : Callback} {run : RouteMatch → Response}
    (h : (builtin live).find? c = some run) (m : RouteMatch) : run m ≠ dispatchFailed := by
  cases c with
  | direct name =>
    have hmem : (name, run) ∈ [("home", fun _ => home), ("echo", echo), ("not_found", notFound)] :=
      Assoc.mem_of_lookup h
    simp only [List.mem_cons, Prod.mk.injEq, List.not_mem_nil, or_false] at hmem
    rcases hmem with ⟨-, rfl⟩ | ⟨-, rfl⟩ | ⟨-, rfl⟩
    · show home ≠ dispatchFailed
      decide
    · exact json_ne_dispatchFailed _ _
    · exact json_ne_dispatchFailed _ _
  | method className methodName =>
    have hmem : ((className, methodName), run) ∈ [(("Health", "check"), fun _ => health),
        (("Routes", "cache"), fun _ => cacheDump live)] := Assoc.mem_of_lookup h
    simp only [List.mem_cons, Prod.mk.injEq, List.not_mem_nil, or_false] at hmem
    rcases hmem with ⟨-, rfl⟩ | ⟨-, rfl⟩
    · show health ≠ dispatchFailed
      decide
    · exact cacheDump_ne_dispatchFailed live
  | aliased name => cases h

end Response

/-! ### What is counted on the way -/

theorem Table.resolveCounted_of_ok {t : Table} {raw : String} {m : RouteMatch}
    (h : t.resolve raw = .ok m) (metrics : Metrics) :
    t.resolveCounted raw metrics = (.ok m, metrics.tick (.resolutions m.outcome)) := by
  rw [resolveCounted, h]

/-- What firing a match gives is what a handler gives. -/
theorem RouteMatch.exists_of_fire_eq_ok {α : Type} {m : RouteMatch} {handlers : Handlers α}
    {aliases : Aliases} {a : α} (h : m.fire handlers aliases = .ok a) :
    ∃ target run, handlers.find? target = some run ∧ run m = a := by
  obtain ⟨run, hrun, hok⟩ := bind_eq_ok.mp h
  obtain ⟨target, -, hfind⟩ := bind_eq_ok.mp hrun
  cases hf : handlers.find? target with
  | none => simp [hf] at hfind
  | some run' =>
    rw [hf] at hfind
    obtain rfl := Except.ok.inj hfind
    exact ⟨target, run', hf, Except.ok.inj hok⟩

namespace Host

variable {h : Host} {c : Config} {t : Table}

@[simp] theorem metrics_writeCache (h : Host) (router : RoutingConfig) (t : Table) :
    (h.writeCache router t).metrics = h.metrics := by
  unfold writeCache
  split <;> rfl

theorem metrics_compile_ok (ht : compileTable c.router c.routes = .ok t) :
    (h.compile c).2.metrics = h.metrics.recordBuild .compiled t.size := by
  rw [compile, ht]
  exact metrics_writeCache ..

theorem metrics_compile_error {e : CompileError} (he : compileTable c.router c.routes = .error e) :
    (h.compile c).2.metrics = h.metrics := by
  rw [compile, he]

end Host

namespace Live

variable {l : Live} {c : Config} {cs : List Config}

/-- What was compiled answers every path, since both slots are set. -/
theorem Of.serves (h : l.Of c) (raw : String) : ∃ m, l.table.resolve raw = .ok m := by
  obtain ⟨home, error, hh, he⟩ := slots_compileTable h.1
  exact Table.exists_resolve hh he raw

theorem Current.serves (h : l.Current cs) (raw : String) : ∃ m, l.table.resolve raw = .ok m := by
  obtain ⟨-, c, -, -, hof, -⟩ := h
  exact hof.serves raw

end Live

namespace Server

variable {s : Server} {c : Config}

/-- A server that starts has the handlers of the router, and has counted its table. -/
theorem host_of_start {h g : Host} (hs : start h c = (.ok s, g)) :
    s.handlers = Response.builtin ∧
      s.host.metrics = h.metrics.recordBuild .compiled s.live.table.size := by
  have hbuild : h.buildTable c false = h.compile c := rfl
  rw [start, hbuild, Host.compile] at hs
  cases hc : compileTable c.router c.routes with
  | error e => simp [hc] at hs
  | ok t =>
    rw [hc] at hs
    obtain ⟨rfl, -⟩ : ofTable c t ((h.built .compiled t).writeCache c.router t) = s ∧ _ := by
      simpa using hs
    exact ⟨rfl, Host.metrics_writeCache ..⟩

/-- **Answering a match** gives what a handler gives, or counts why there is none to run. -/
theorem answer_ok (s : Server) (aliases : Aliases) (m : RouteMatch) :
    (∃ target run, (s.handlers s.live.table).find? target = some run ∧
      s.answer aliases (.ok m) = (run m, s)) ∨
    ∃ cause : FireError, s.answer aliases (.ok m) = (.dispatchFailed,
      { s with host := s.host.tick (.dispatchErrors (DispatchError.fire cause).failure) }) := by
  unfold answer
  cases hfire : m.fire (s.handlers s.live.table) aliases with
  | error cause =>
    refine Or.inr ⟨cause, ?_⟩
    simp only [Except.mapError, bind, Except.bind, hfire]
  | ok r =>
    obtain ⟨target, run, hrun, rfl⟩ := RouteMatch.exists_of_fire_eq_ok hfire
    refine Or.inl ⟨target, run, hrun, ?_⟩
    simp only [Except.mapError, bind, Except.bind, hfire]

end Server

/-! ### Accounts -/

/-- Whether a request was dispatched: it was resolved, whatever came of it. -/
def Request.dispatched (r : Request) : Bool :=
  match r.progress with
  | .accepted => false
  | .resolved _ | .answered _ => true

/-- Whether a request was answered as one that cannot be dispatched. -/
def Request.failed (r : Request) : Bool :=
  match r.progress with
  | .answered response => response = .dispatchFailed
  | .accepted | .resolved _ => false

theorem Request.countP_set {rs : List Request} {i : Nat} {r : Request} (h : rs[i]? = some r)
    (p : Request → Bool) (s : Request) :
    (rs.set i s).countP p + (if p r then 1 else 0) = rs.countP p + if p s then 1 else 0 := by
  obtain ⟨hi, rfl⟩ := List.getElem?_eq_some_iff.mp h
  rw [List.countP_set hi]
  by_cases hp : p rs[i]
  · have hpos : 0 < rs.countP p := List.countP_pos_iff.mpr ⟨rs[i], List.getElem_mem hi, hp⟩
    simp only [hp, if_true]
    omega
  · simp [hp]

/-- Whether the routes of a configuration compile. -/
def Config.compiles (c : Config) : Bool := (compileTable c.router c.routes).isOk

/-- Counters that agree with what happened since they had some values, which is that a table was
compiled, requests came in, updates were tried and a table was built last. Every request that was
dispatched is counted by its outcome, every one that failed by its cause, and every table that was
compiled; nothing else is counted; and the number of routes is that of the last table. -/
structure Metrics.Accounts (before now : Metrics) (requests : List Request) (tried : List Config)
    (last : Table) : Prop where
  resolutions :
    now.total Counter.outcomes = before.total Counter.outcomes + requests.countP Request.dispatched
  failures :
    now.total Counter.failures = before.total Counter.failures + requests.countP Request.failed
  builds : now.count (.tableBuilds .compiled) =
    before.count (.tableBuilds .compiled) + 1 + tried.countP Config.compiles
  others : ∀ k, k ∉ Counter.served → now.count k = before.count k
  routes : now.routes = some last.size

namespace Metrics.Accounts

variable {before now : Metrics} {requests : List Request} {tried : List Config} {last : Table}
  {raw : String} {seen : Live} {i : Nat}

theorem start (before : Metrics) (t : Table) :
    Accounts before (before.recordBuild .compiled t.size) [] [] t where
  resolutions := total_recordBuild before t.size (by decide)
  failures := total_recordBuild before t.size (by decide)
  builds := by rw [count_recordBuild, if_pos rfl, List.countP_nil, Nat.add_zero]
  others k hk := count_tick_of_ne fun heq => hk (by simp [heq, Counter.served])
  routes := rfl

/-- A table that is compiled is counted, and is the last one. -/
theorem compiled (h : Accounts before now requests tried last) {c : Config} {t : Table}
    (hc : compileTable c.router c.routes = .ok t) :
    Accounts before (now.recordBuild .compiled t.size) requests (tried ++ [c]) t where
  resolutions := (total_recordBuild now t.size (by decide)).trans h.resolutions
  failures := (total_recordBuild now t.size (by decide)).trans h.failures
  builds := by
    have hcompiles : c.compiles = true := by rw [Config.compiles, hc]; rfl
    rw [count_recordBuild, if_pos rfl, h.builds, List.countP_append, List.countP_singleton,
      if_pos hcompiles, Nat.add_assoc]
  others k hk := by
    rw [← h.others k hk]
    exact count_tick_of_ne fun heq => hk (by simp [heq, Counter.served])
  routes := rfl

/-- An update that is refused is not counted. -/
theorem refused (h : Accounts before now requests tried last) {c : Config} {e : CompileError}
    (hc : compileTable c.router c.routes = .error e) :
    Accounts before now requests (tried ++ [c]) last where
  resolutions := h.resolutions
  failures := h.failures
  builds := by
    have hcompiles : ¬ c.compiles = true := by rw [Config.compiles, hc]; exact Bool.false_ne_true
    rw [h.builds, List.countP_append, List.countP_singleton, if_neg hcompiles]
    rfl
  others := h.others
  routes := h.routes

/-- A request that comes in is not counted yet. -/
theorem accepted (h : Accounts before now requests tried last) :
    Accounts before now (requests ++ [⟨raw, seen, .accepted⟩]) tried last where
  resolutions := by rw [h.resolutions, List.countP_append]; rfl
  failures := by rw [h.failures, List.countP_append]; rfl
  builds := h.builds
  others := h.others
  routes := h.routes

/-- A request that is resolved is counted by its outcome. -/
theorem resolved (h : Accounts before now requests tried last)
    (hi : requests[i]? = some ⟨raw, seen, .accepted⟩) (outcome : Outcome)
    (found : Except Slot RouteMatch) :
    Accounts before (now.tick (.resolutions outcome)) (requests.set i ⟨raw, seen, .resolved found⟩)
      tried last where
  resolutions := by
    have hset : _ + 0 = requests.countP Request.dispatched + 1 :=
      Request.countP_set hi Request.dispatched ⟨raw, seen, .resolved found⟩
    rw [total_tick, h.resolutions, Counter.count_outcomes]
    omega
  failures := by
    have hset : _ + 0 = requests.countP Request.failed + 0 :=
      Request.countP_set hi Request.failed ⟨raw, seen, .resolved found⟩
    have hcount : Counter.failures.count (.resolutions outcome) = 0 := by cases outcome <;> rfl
    rw [total_tick, h.failures, hcount]
    omega
  builds := by rw [count_tick_of_ne (by simp), h.builds]
  others k hk := by
    rw [← h.others k hk]
    refine count_tick_of_ne fun heq => hk ?_
    rw [heq]
    exact Counter.outcome_mem_served outcome
  routes := h.routes

/-- A request that a handler answers is not counted again. -/
theorem answered (h : Accounts before now requests tried last) {found : Except Slot RouteMatch}
    (hi : requests[i]? = some ⟨raw, seen, .resolved found⟩) {response : Response}
    (hr : response ≠ .dispatchFailed) :
    Accounts before now (requests.set i ⟨raw, seen, .answered response⟩) tried last where
  resolutions := by
    have hset : _ + 1 = requests.countP Request.dispatched + 1 :=
      Request.countP_set hi Request.dispatched ⟨raw, seen, .answered response⟩
    rw [h.resolutions]
    omega
  failures := by
    have hset := Request.countP_set hi Request.failed ⟨raw, seen, .answered response⟩
    simp only [Request.failed, hr, decide_false, Bool.false_eq_true, if_false] at hset
    rw [h.failures]
    omega
  builds := h.builds
  others := h.others
  routes := h.routes

/-- A request that fails is counted by its cause. -/
theorem failed (h : Accounts before now requests tried last) {found : Except Slot RouteMatch}
    (hi : requests[i]? = some ⟨raw, seen, .resolved found⟩) (cause : FireError) :
    Accounts before (now.tick (.dispatchErrors (DispatchError.fire cause).failure))
      (requests.set i ⟨raw, seen, .answered .dispatchFailed⟩) tried last where
  resolutions := by
    have hset : _ + 1 = requests.countP Request.dispatched + 1 :=
      Request.countP_set hi Request.dispatched ⟨raw, seen, .answered .dispatchFailed⟩
    have hcount :
        Counter.outcomes.count (.dispatchErrors (DispatchError.fire cause).failure) = 0 := by
      cases cause <;> rfl
    rw [total_tick, h.resolutions, hcount]
    omega
  failures := by
    have hset : _ + 0 = requests.countP Request.failed + 1 :=
      Request.countP_set hi Request.failed ⟨raw, seen, .answered .dispatchFailed⟩
    rw [total_tick, h.failures, Counter.count_failures]
    omega
  builds := by rw [count_tick_of_ne (by simp), h.builds]
  others k hk := by
    rw [← h.others k hk]
    refine count_tick_of_ne fun heq => hk ?_
    rw [heq]
    exact Counter.failure_mem_served cause
  routes := h.routes

end Metrics.Accounts

/-- What is live after an update that was taken is settled, if one was taken. -/
def Live.after (l : Live) : Option (Config × Except CompileError BuiltTable) → Live
  | some (c, .ok built) => ⟨built.table, c.aliasRegistry⟩
  | some (_, .error _) | none => l

theorem Server.adopt_eq (s : Server) (c : Config) (built : Except CompileError BuiltTable) :
    s.adopt c built = { s with live := s.live.after (some (c, built)) } := by
  cases built <;> rfl

namespace Traffic

variable {u : Traffic} {before : Metrics}

/-- The updates that were taken, settled or not. -/
def tried (u : Traffic) : List Config := u.settled ++ (u.taken.map Prod.fst).toList

/-- The counters agree with what happened. The table built last is the one that is live once the
update that was taken is settled. -/
def Accounted (before : Metrics) (u : Traffic) : Prop :=
  before.Accounts u.server.host.metrics u.requests u.tried (u.server.live.after u.taken).table

/-- What the steps rely on: the handlers are those of the router, and every request is resolved in a
table that answers it. -/
structure Ready (u : Traffic) : Prop where
  handlers : u.server.handlers = Response.builtin
  serves : ∀ r ∈ u.requests, ∃ m, r.seen.table.resolve r.raw = .ok m ∧
    ∀ found, r.progress = .resolved found → found = .ok m

/-- A server that starts is ready after all events. -/
theorem ready_run {h g : Host} {c : Config} {s : Server} (hs : Server.start h c = (.ok s, g))
    (es : List Event) : ((start s).run es).Ready := by
  refine ⟨?_, fun r hr => ?_⟩
  · rw [handlers_run]
    exact (Server.host_of_start hs).1
  · obtain ⟨i, hi⟩ := List.getElem?_of_mem hr
    obtain ⟨⟨past, -, -, -, hseen⟩, hprogress⟩ := traced_run s es i r hi
    obtain ⟨m, hm⟩ : ∃ m, r.seen.table.resolve r.raw = .ok m := by
      rw [hseen]
      exact ((Sound.start (Server.live_of_start hs)).run past).live.serves r.raw
    -- what it was resolved to is what the table that it saw answers
    refine ⟨m, hm, fun found hfound => ?_⟩
    rw [hfound] at hprogress
    exact hprogress.trans hm

/-- A table is counted when it is built, and the one that is live afterwards is that table. -/
theorem Accounted.build (h : u.Accounted before) : (u.step .build).Accounted before := by
  unfold step
  dsimp only
  split
  · next c cs ht hw =>
    have hbuild : u.server.host.buildTable c false = u.server.host.compile c := rfl
    have hfst := u.server.host.fst_compile c
    have htried : u.tried = u.settled := by rw [tried, ht]; exact List.append_nil _
    rw [Accounted, htried, ht] at h
    rw [hbuild]
    unfold Accounted
    cases hc : compileTable c.router c.routes with
    | error e =>
      dsimp only
      rw [Host.metrics_compile_error hc, hfst, hc]
      exact h.refused hc
    | ok t =>
      dsimp only
      rw [Host.metrics_compile_ok hc, hfst, hc]
      exact h.compiled hc
  · exact h

/-- Settling counts nothing: the update was tried, and its table counted, when it was built. -/
theorem Accounted.settle (h : u.Accounted before) : (u.step .settle).Accounted before := by
  unfold step
  dsimp only
  split
  · next c built ht =>
    have htried : u.tried = u.settled ++ [c] := by rw [tried, ht]; rfl
    rw [Accounted, htried, ht] at h
    unfold Accounted tried
    dsimp only
    rw [Server.adopt_eq, Option.map_none, Option.toList_none, List.append_nil]
    exact h
  · exact h

theorem Accounted.resolve (h : u.Accounted before) (hu : u.Ready) (i : Nat) :
    (u.step (.resolve i)).Accounted before := by
  unfold step
  dsimp only
  split
  · next raw seen hi =>
    obtain ⟨m, hm, -⟩ := hu.serves _ (List.mem_of_getElem? hi)
    rw [Table.resolveCounted_of_ok hm]
    exact Metrics.Accounts.resolved h hi m.outcome (.ok m)
  · exact h

theorem Accounted.fire (h : u.Accounted before) (hu : u.Ready) (i : Nat) :
    (u.step (.fire i)).Accounted before := by
  unfold step
  dsimp only
  split
  · next raw seen found hi =>
    obtain ⟨m, -, hfound⟩ := hu.serves _ (List.mem_of_getElem? hi)
    -- it was resolved to a match, so it can only fail for want of an alias or a handler
    obtain rfl := hfound found rfl
    rcases u.server.answer_ok seen.aliases m with ⟨target, run, hrun, ha⟩ | ⟨cause, ha⟩
    · rw [ha]
      rw [hu.handlers] at hrun
      exact Metrics.Accounts.answered h hi (Response.builtin_ne_dispatchFailed hrun m)
    · rw [ha]
      exact Metrics.Accounts.failed h hi cause
  · exact h

/-- **A step counts what it does.** -/
theorem Accounted.step (h : u.Accounted before) (hu : u.Ready) (e : Event) :
    (u.step e).Accounted before := by
  cases e with
  | push c => exact h
  | build => exact h.build
  | settle => exact h.settle
  | accept raw => exact Metrics.Accounts.accepted h
  | resolve i => exact h.resolve hu i
  | fire i => exact h.fire hu i

theorem accounted_run {h g : Host} {c : Config} {s : Server}
    (hs : Server.start h c = (.ok s, g)) (es : List Event) :
    ((start s).run es).Accounted h.metrics := by
  induction es using List.reverseRecOn with
  | nil =>
    show h.metrics.Accounts s.host.metrics [] [] s.live.table
    rw [(Server.host_of_start hs).2]
    exact .start h.metrics s.live.table
  | append_singleton es e ih =>
    rw [run_snoc]
    exact ih.step (ready_run hs es) e

/-- **The counters of a server agree with what it does.** Let a server start with a configuration,
and let updates and requests come in any order. As many outcomes are counted as requests are
dispatched, and as many failures, each for want of an alias or of a handler, as are answered as
requests that cannot be dispatched. One table is counted for the start and one for each update whose
routes compile, as soon as it is built. Nothing else is counted. The number of routes is that of the
live table, or of the one that gets live when the update that was taken is settled. -/
theorem run_accounted {h g : Host} {c : Config} {s : Server} (hs : Server.start h c = (.ok s, g))
    (es : List Event) :
    let u := (start s).run es
    let now := u.server.host.metrics
    now.total Counter.outcomes =
      h.metrics.total Counter.outcomes + u.requests.countP Request.dispatched ∧
    now.total Counter.failures =
      h.metrics.total Counter.failures + u.requests.countP Request.failed ∧
    now.count (.tableBuilds .compiled) =
      h.metrics.count (.tableBuilds .compiled) + 1 + u.tried.countP Config.compiles ∧
    (∀ k, k ∉ Counter.served → now.count k = h.metrics.count k) ∧
    (∀ p ∈ now.toList, p.1 ≠ labelled "router_dispatch_errors_total" "kind" "other") ∧
    now.routes = some (u.server.live.after u.taken).table.size ∧
    (u.taken = none → u.tried = u.settled ∧ now.routes = some u.server.live.table.size) := by
  intro u now
  have haccounted : u.Accounted h.metrics := accounted_run hs es
  refine ⟨haccounted.resolutions, haccounted.failures, haccounted.builds, haccounted.others, ?_,
    haccounted.routes, fun ht => ?_⟩
  · intro p hp
    rcases List.mem_append.mp hp with hp | hp
    · obtain ⟨⟨k, n⟩, -, rfl⟩ := List.mem_map.mp hp
      exact k.name_ne_other
    · obtain ⟨n, -, rfl⟩ := List.mem_map.mp hp
      show "router_routes" ≠ _
      decide +kernel
  · have hroutes : now.routes = some (u.server.live.after u.taken).table.size := haccounted.routes
    rw [ht] at hroutes
    refine ⟨?_, hroutes⟩
    rw [tried, ht]
    exact List.append_nil _

/-- A configuration with an alias that is not there and a handler that is not there. -/
def haunted : Config := { routes := [⟨"a", "@ghost"⟩, ⟨"b", "nobody"⟩, ⟨"c", "echo"⟩] }

/-- Three requests, of which two fail, and two updates, of which one is refused. -/
def hauntedEvents : List Event :=
  [.accept "/a", .accept "/b", .accept "/c", .resolve 0, .push broken, .resolve 2, .build, .fire 2,
    .resolve 1, .fire 0, .settle, .push renamed, .build, .fire 1, .settle]

theorem run_accounted_haunted : ∃ s g, Server.start {} haunted = (.ok s, g) ∧
    ((start s).run hauntedEvents).server.host.metrics.total Counter.outcomes = 3 ∧
    ((start s).run hauntedEvents).server.host.metrics.total Counter.failures = 2 ∧
    ((start s).run hauntedEvents).server.host.metrics.count (.tableBuilds .compiled) = 2 ∧
    ((start s).run hauntedEvents).server.host.metrics.routes =
      some ((start s).run hauntedEvents).server.live.table.size := by
  obtain ⟨s, g, hs, hdispatched, hfailed, htried, htaken⟩ : ∃ s g,
      Server.start {} haunted = (.ok s, g) ∧
      ((start s).run hauntedEvents).requests.countP Request.dispatched = 3 ∧
      ((start s).run hauntedEvents).requests.countP Request.failed = 2 ∧
      ((start s).run hauntedEvents).tried.countP Config.compiles = 1 ∧
      ((start s).run hauntedEvents).taken = none := by
    refine ⟨_, _, rfl, ?_, ?_, ?_, rfl⟩
    · decide +kernel
    · decide +kernel
    · decide +kernel
  obtain ⟨hres, hfail, hbuilds, -, -, -, hroutes⟩ := run_accounted hs hauntedEvents
  rw [hdispatched] at hres
  rw [hfailed] at hfail
  rw [htried] at hbuilds
  exact ⟨s, g, hs, hres, hfail, hbuilds, (hroutes htaken).2⟩

end Traffic

end PathRouter
