import PathRouter.Proofs.Startup.Cache
import PathRouter.Server.Traffic

/-!
# Configurations are taken as a whole

Whatever order updates and requests come in, what is live was compiled from one configuration, table
and aliases alike, and that is the last of those settled so far whose routes compile. What a step can
change is said once (`Traffic.Change`). Only settling changes what is live, and it has in hand what
compiling the taken update gave (`Sound.change`). A request keeps what was live when it came in, so
what becomes of it is explained by that, and by the handlers for the table that is live when it is
fired (`traced_change`). By induction both hold after all events (`run_current`).
-/

namespace PathRouter

namespace Live

/-- Both parts of what is live come from a configuration. -/
def Of (l : Live) (c : Config) : Prop :=
  compileTable c.router c.routes = .ok l.table ∧ l.aliases = c.aliasRegistry

/-- What is live comes from the last of some configurations whose routes compile. -/
def Current (l : Live) (cs : List Config) : Prop :=
  ∃ before c after, cs = before ++ c :: after ∧ l.Of c ∧
    ∀ d ∈ after, ∃ e, compileTable d.router d.routes = .error e

/-- The response to a raw path with what is live and some handlers. -/
def response (l : Live) (handlers : Handlers Response) (raw : String) : Response :=
  match l.table.dispatch handlers l.aliases raw with
  | .ok r => r
  | .error _ => .dispatchFailed

variable {l : Live} {c : Config} {cs : List Config}

theorem Of.current (h : l.Of c) (cs : List Config) : l.Current (cs ++ [c]) :=
  ⟨cs, c, [], rfl, h, by simp⟩

/-- A configuration that is refused is passed over. -/
theorem Current.refused {e : CompileError} (h : l.Current cs)
    (he : compileTable c.router c.routes = .error e) : l.Current (cs ++ [c]) := by
  obtain ⟨before, d, after, rfl, hd, hafter⟩ := h
  refine ⟨before, d, after ++ [c], by simp, hd, ?_⟩
  intro x hx
  rcases List.mem_append.mp hx with hx | hx
  · exact hafter x hx
  · rw [List.mem_singleton.mp hx]
    exact ⟨e, he⟩

end Live

namespace Server

variable {s : Server} {c : Config}

/-- A server that starts has what its configuration gives. -/
theorem live_of_start {h g : Host} (hs : start h c = (.ok s, g)) : s.live.Of c := by
  have hb : (h.buildTable c false).1 = (compileTable c.router c.routes).map (⟨·, .compiled⟩) :=
    h.fst_compile c
  unfold start at hs
  split at hs
  · next built g' hbuilt =>
    rw [hbuilt] at hb
    cases hc : compileTable c.router c.routes with
    | error e => simp [hc, Except.map] at hb
    | ok t =>
      rw [hc] at hb
      obtain rfl : built = ⟨t, .compiled⟩ := Except.ok.inj hb
      obtain ⟨rfl, -⟩ : ofTable c t g' = s ∧ g' = g := by simpa using hs
      exact ⟨hc, rfl⟩
  · simp at hs

/-- **What was compiled is taken as a whole**, or nothing is. -/
theorem live_adopt (s : Server) (c : Config) :
    (∃ e, compileTable c.router c.routes = .error e ∧
      s.adopt c ((compileTable c.router c.routes).map (⟨·, .compiled⟩)) = s) ∨
    (s.adopt c ((compileTable c.router c.routes).map (⟨·, .compiled⟩))).live.Of c := by
  cases hc : compileTable c.router c.routes with
  | error e => exact Or.inl ⟨e, rfl, rfl⟩
  | ok t => exact Or.inr ⟨hc, rfl⟩

theorem handlers_adopt (s : Server) (c : Config) (built : Except CompileError BuiltTable) :
    (s.adopt c built).handlers = s.handlers := by
  cases built <;> rfl

/-- Answering a request changes the host only. -/
theorem answer_server (s : Server) (aliases : Aliases) (found : Except Slot RouteMatch) :
    ∃ host, (s.answer aliases found).2 = { s with host } := by
  unfold answer
  dsimp only
  split
  · exact ⟨s.host, rfl⟩
  · exact ⟨_, rfl⟩

/-- A request that was resolved in a table is answered from that table and the aliases. -/
theorem answer_resolve (s : Server) (l : Live) (raw : String) :
    (s.answer l.aliases (l.table.resolve raw)).1 = l.response (s.handlers s.live.table) raw := by
  unfold answer Live.response Table.dispatch
  dsimp only
  split <;> simp [*]

end Server

theorem Table.fst_resolveCounted (t : Table) (raw : String) (metrics : Metrics) :
    (t.resolveCounted raw metrics).1 = t.resolve raw := by
  unfold resolveCounted
  cases t.resolve raw <;> rfl

namespace Traffic

variable {u v : Traffic} {c : Config} {pushed : List Config}

theorem run_snoc (u : Traffic) (es : List Event) (e : Event) :
    u.run (es ++ [e]) = (u.run es).step e :=
  List.foldl_concat ..

theorem filterMap_snoc {α : Type} (f : Event → Option α) (es : List Event) (e : Event) :
    (es ++ [e]).filterMap f = es.filterMap f ++ (f e).toList := by
  rw [List.filterMap_append, List.filterMap_cons, List.filterMap_nil]
  cases f e <;> rfl

/-- The configuration that an event pushes. -/
def Event.pushed? : Event → Option Config
  | push c => some c
  | _ => none

/-- The raw path of the request that an event brings in. -/
def Event.accepted? : Event → Option String
  | accept raw => some raw
  | _ => none

/-- The changes that an event can make: none if it cannot happen, else those of its kind. -/
inductive Change (u : Traffic) : Event → Traffic → Prop
  | none {e : Event} (hp : e.pushed? = .none) (ha : e.accepted? = .none) : Change u e u
  | push (c : Config) : Change u (.push c) { u with waiting := u.waiting ++ [c] }
  | build {c : Config} {cs : List Config} (host : Host) (ht : u.taken = .none)
      (hw : u.waiting = c :: cs) : Change u .build
        { u with
          server := { u.server with host }
          waiting := cs
          taken := some (c, (compileTable c.router c.routes).map (⟨·, .compiled⟩)) }
  | settle {c : Config} {built : Except CompileError BuiltTable}
      (ht : u.taken = some (c, built)) : Change u .settle
        { u with
          server := u.server.adopt c built
          taken := .none
          settled := u.settled ++ [c] }
  | accept (raw : String) : Change u (.accept raw)
      { u with requests := u.requests ++ [⟨raw, u.server.live, .accepted⟩] }
  | resolve {i : Nat} {raw : String} {seen : Live} (host : Host)
      (hi : u.requests[i]? = some ⟨raw, seen, .accepted⟩) : Change u (.resolve i)
        { u with
          server := { u.server with host }
          requests := u.requests.set i ⟨raw, seen, .resolved (seen.table.resolve raw)⟩ }
  | fire {i : Nat} {raw : String} {seen : Live} {found : Except Slot RouteMatch} (host : Host)
      (hi : u.requests[i]? = some ⟨raw, seen, .resolved found⟩) : Change u (.fire i)
        { u with
          server := { u.server with host }
          requests := u.requests.set i
            ⟨raw, seen, .answered (u.server.answer seen.aliases found).1⟩ }

/-- **What a step does.** -/
theorem step_change (u : Traffic) (e : Event) : Change u e (u.step e) := by
  cases e with
  | push c => exact .push c
  | build =>
    unfold step
    dsimp only
    split
    · next c cs ht hw =>
      have hb : (u.server.host.buildTable c false).1 = _ := u.server.host.fst_compile c
      rw [hb]
      exact .build _ ht hw
    · exact .none rfl rfl
  | settle =>
    unfold step
    dsimp only
    split
    · next ht => exact .settle ht
    · exact .none rfl rfl
  | accept raw => exact .accept raw
  | resolve i =>
    unfold step
    dsimp only
    split
    · next hi =>
      rw [Table.fst_resolveCounted]
      exact .resolve _ hi
    · exact .none rfl rfl
  | fire i =>
    unfold step
    dsimp only
    split
    · next raw seen found hi =>
      obtain ⟨host, hs⟩ := u.server.answer_server seen.aliases found
      rw [hs]
      exact .fire host hi
    · exact .none rfl rfl

theorem handlers_change {e : Event} (hu : Change u e v) :
    v.server.handlers = u.server.handlers := by
  cases hu with
  | settle ht => exact u.server.handlers_adopt _ _
  | _ => rfl

theorem handlers_run (u : Traffic) (es : List Event) :
    (u.run es).server.handlers = u.server.handlers := by
  induction es using List.reverseRecOn with
  | nil => rfl
  | append_singleton es e ih => rw [run_snoc, handlers_change (step_change _ e), ih]

/-! ### Updates -/

/-- What holds of updates: none is lost, and they are settled in order; what is built of the one that
was taken is what compiling it gives; and what is live comes from the last one settled that compiles. -/
structure Sound (c : Config) (pushed : List Config) (u : Traffic) : Prop where
  queue : u.settled ++ (u.taken.map Prod.fst).toList ++ u.waiting = pushed
  built : ∀ d built, u.taken = some (d, built) →
    built = (compileTable d.router d.routes).map (⟨·, .compiled⟩)
  live : u.server.live.Current (c :: u.settled)

theorem Sound.start {s : Server} (h : s.live.Of c) : (start s).Sound c [] where
  queue := rfl
  built := by simp [Traffic.start]
  live := h.current []

/-- **A change keeps this**, with what is pushed. -/
theorem Sound.change {e : Event} (h : u.Sound c pushed) (hu : Change u e v) :
    v.Sound c (pushed ++ e.pushed?.toList) := by
  obtain ⟨hqueue, hbuilt, hlive⟩ := h
  subst hqueue
  cases hu with
  | none hp _ =>
    rw [hp, Option.toList_none, List.append_nil]
    exact ⟨rfl, hbuilt, hlive⟩
  | push d => exact ⟨(List.append_assoc _ _ _).symm, hbuilt, hlive⟩
  | @build d ds host ht hw =>
    refine ⟨?_, ?_, hlive⟩
    · simp [ht, hw, Event.pushed?]
    · rintro _ _ ⟨⟩
      rfl
  | @settle d built ht =>
    refine ⟨?_, by simp, ?_⟩
    · simp [ht, Event.pushed?]
    · show (u.server.adopt d built).live.Current (c :: (u.settled ++ [d]))
      rw [hbuilt d built ht, ← List.cons_append]
      rcases u.server.live_adopt d with ⟨e, he, hkept⟩ | hof
      · rw [hkept]
        exact hlive.refused he
      · exact hof.current _
  | accept raw => exact ⟨(List.append_nil _).symm, hbuilt, hlive⟩
  | resolve host hi => exact ⟨(List.append_nil _).symm, hbuilt, hlive⟩
  | fire host hi => exact ⟨(List.append_nil _).symm, hbuilt, hlive⟩

theorem Sound.run (h : u.Sound c pushed) (es : List Event) :
    (u.run es).Sound c (pushed ++ es.filterMap Event.pushed?) := by
  induction es using List.reverseRecOn with
  | nil =>
    rw [List.filterMap_nil, List.append_nil]
    exact h
  | append_singleton es e ih =>
    rw [run_snoc, filterMap_snoc, ← List.append_assoc]
    exact ih.change (step_change _ e)

/-- **Only settling an update that compiles** changes what is live, and then both parts of it. -/
theorem Sound.live_change {e : Event} (h : u.Sound c pushed) (hu : Change u e v) :
    v.server.live = u.server.live ∨
      e = .settle ∧ ∃ d built, u.taken = some (d, built) ∧ v.server.live.Of d := by
  cases hu with
  | @settle d built ht =>
    rw [h.built d built ht]
    rcases u.server.live_adopt d with ⟨e, -, hkept⟩ | hof
    · rw [hkept]
      exact Or.inl rfl
    · exact Or.inr ⟨rfl, d, built, ht, hof⟩
  | _ => exact Or.inl rfl

/-! ### Requests -/

theorem getElem?_append_singleton {rs : List Request} {i : Nat} {r s : Request}
    (h : (rs ++ [s])[i]? = some r) : rs[i]? = some r ∨ rs.length = i ∧ r = s := by
  rw [List.getElem?_append] at h
  split_ifs at h with hi
  · exact Or.inl h
  · obtain ⟨hlt, hr⟩ := List.getElem?_eq_some_iff.mp h
    have hi' : i - rs.length = 0 := by simpa using hlt
    exact Or.inr ⟨by omega, by simpa [hi'] using hr.symm⟩

theorem getElem?_set_cases {rs : List Request} {i j : Nat} {r s : Request}
    (h : (rs.set j s)[i]? = some r) : rs[i]? = some r ∨ j = i ∧ r = s := by
  rw [List.getElem?_set] at h
  split_ifs at h with hj
  · exact Or.inr ⟨hj, (Option.some.inj h).symm⟩
  · exact Or.inl h

theorem map_raw_set {rs : List Request} {i : Nat} {raw : String} {seen : Live} {p : Progress}
    (h : rs[i]? = some ⟨raw, seen, p⟩) (q : Progress) :
    (rs.set i ⟨raw, seen, q⟩).map Request.raw = rs.map Request.raw := by
  obtain ⟨hi, hr⟩ := List.getElem?_eq_some_iff.mp h
  calc (rs.set i ⟨raw, seen, q⟩).map Request.raw
      = (rs.set i rs[i]).map Request.raw := by rw [List.map_set, List.map_set, hr]
    _ = rs.map Request.raw := by rw [List.set_getElem_self]

theorem raws_change {e : Event} (hu : Change u e v) :
    v.requests.map Request.raw = u.requests.map Request.raw ++ e.accepted?.toList := by
  cases hu with
  | none _ ha => rw [ha, Option.toList_none, List.append_nil]
  | push | build | settle => exact (List.append_nil _).symm
  | accept raw => exact List.map_append
  | resolve host hi => exact (map_raw_set hi _).trans (List.append_nil _).symm
  | fire host hi => exact (map_raw_set hi _).trans (List.append_nil _).symm

/-- The requests are those that came in, in that order. -/
theorem raws_run (u : Traffic) (es : List Event) : (u.run es).requests.map Request.raw =
    u.requests.map Request.raw ++ es.filterMap Event.accepted? := by
  induction es using List.reverseRecOn with
  | nil =>
    rw [List.filterMap_nil, List.append_nil]
    rfl
  | append_singleton es e ih =>
    rw [run_snoc, raws_change (step_change _ e), ih, filterMap_snoc, List.append_assoc]

/-- What a request can have come to, if some events happened to a server: what it was resolved to and
what it was answered are explained by what it saw, and by the table that was live when it was fired. -/
def Explains (s : Server) (es : List Event) (i : Nat) (raw : String) (seen : Live) :
    Progress → Prop
  | .accepted => True
  | .resolved found => found = seen.table.resolve raw
  | .answered response => ∃ before after, es = before ++ .fire i :: after ∧
      response = seen.response (s.handlers ((start s).run before).server.live.table) raw

/-- A request came in, saw what was live then, and went on with that. -/
structure Traced (s : Server) (es : List Event) (i : Nat) (r : Request) : Prop where
  accepted : ∃ before after, es = before ++ .accept r.raw :: after ∧
    ((start s).run before).requests.length = i ∧ r.seen = ((start s).run before).server.live
  progress : Explains s es i r.raw r.seen r.progress

theorem Explains.snoc {s : Server} {es : List Event} {i : Nat} {raw : String} {seen : Live}
    {p : Progress} (h : Explains s es i raw seen p) (e : Event) :
    Explains s (es ++ [e]) i raw seen p := by
  cases p with
  | accepted => trivial
  | resolved found => exact h
  | answered response =>
    obtain ⟨before, after, rfl, hr⟩ := h
    exact ⟨before, after ++ [e], by simp, hr⟩

theorem Traced.accepted_snoc {s : Server} {es : List Event} {i : Nat} {r : Request}
    (h : Traced s es i r) (e : Event) : ∃ before after,
      es ++ [e] = before ++ .accept r.raw :: after ∧
      ((start s).run before).requests.length = i ∧
      r.seen = ((start s).run before).server.live := by
  obtain ⟨before, after, rfl, hi, hseen⟩ := h.accepted
  exact ⟨before, after ++ [e], by simp, hi, hseen⟩

/-- **A change keeps requests traced.** -/
theorem traced_change {s : Server} {es : List Event} {e : Event}
    (h : ∀ i r, ((start s).run es).requests[i]? = some r → Traced s es i r)
    (hu : Change ((start s).run es) e v) {i : Nat} {r : Request} (hr : v.requests[i]? = some r) :
    Traced s (es ++ [e]) i r := by
  have hold : ((start s).run es).requests[i]? = some r → Traced s (es ++ [e]) i r :=
    fun hr => ⟨(h i r hr).accepted_snoc e, (h i r hr).progress.snoc e⟩
  cases hu with
  | none | push | build | settle => exact hold hr
  | accept raw =>
    rcases getElem?_append_singleton hr with hr | ⟨hi, rfl⟩
    · exact hold hr
    · exact ⟨⟨es, [], rfl, hi, rfl⟩, trivial⟩
  | resolve host hj =>
    rcases getElem?_set_cases hr with hr | ⟨rfl, rfl⟩
    · exact hold hr
    · exact ⟨(h _ _ hj).accepted_snoc _, rfl⟩
  | @fire j raw seen found host hj =>
    rcases getElem?_set_cases hr with hr | ⟨rfl, rfl⟩
    · exact hold hr
    · refine ⟨(h _ _ hj).accepted_snoc _, es, [], rfl, ?_⟩
      -- it was resolved in the table that it saw, so its answer is that of one pair
      have hfound : found = seen.table.resolve raw := (h _ _ hj).progress
      rw [hfound, Server.answer_resolve, handlers_run]
      rfl

/-- **Every request** is traced. -/
theorem traced_run (s : Server) (es : List Event) :
    ∀ i r, ((start s).run es).requests[i]? = some r → Traced s es i r := by
  induction es using List.reverseRecOn with
  | nil =>
    intro i r h
    simp [run, start] at h
  | append_singleton es e ih =>
    intro i r h
    rw [run_snoc] at h
    exact traced_change ih (step_change _ e) h

/-! ### Uninterrupted -/

/-- An update that is pushed to a server with nothing to do is taken as `Server.reload` takes it. -/
theorem run_reload (hw : u.waiting = []) (ht : u.taken = none) (c : Config) :
    u.run [.push c, .build, .settle] =
      { u with server := (u.server.reload c).2, settled := u.settled ++ [c] } := by
  simp [run, step, hw, ht, Server.reload]

/-- A request that nothing comes between is answered as `Server.respond` answers it. -/
theorem run_respond (u : Traffic) (raw : String) :
    u.run [.accept raw, .resolve u.requests.length, .fire u.requests.length] =
      { u with
        server := (u.server.respond raw).2
        requests := u.requests ++
          [⟨raw, u.server.live, .answered (u.server.respond raw).1⟩] } := by
  simp [run, step, Server.respond]

/-! ### All or nothing -/

/-- **Configurations are taken as a whole.** Let a server start with a configuration, and let updates
and requests come in any order. The updates are settled in the order in which they were pushed, and
none is lost. What is live, table and aliases alike, comes from the last configuration that compiles,
of the first one and the updates that are settled. No event changes it but settling an update that
compiles. Every request that came in saw what was live then, and was resolved and answered with
that. -/
theorem run_current {h g : Host} {c : Config} {s : Server} (hs : Server.start h c = (.ok s, g))
    (handlers : Table → Handlers Response) (es : List Event) :
    let u := start (s.withHandlers handlers)
    (u.run es).settled ++ ((u.run es).taken.map Prod.fst).toList ++ (u.run es).waiting =
      es.filterMap Event.pushed? ∧
    (u.run es).server.live.Current (c :: (u.run es).settled) ∧
    (∀ e, ((u.run es).step e).server.live = (u.run es).server.live ∨
      e = .settle ∧ ∃ d built, (u.run es).taken = some (d, built) ∧
        ((u.run es).step e).server.live.Of d) ∧
    (∀ d built cause, (u.run es).taken = some (d, built) →
      compileTable d.router d.routes = .error cause →
      ((u.run es).step .settle).server.live = (u.run es).server.live) ∧
    (u.run es).requests.map Request.raw = es.filterMap Event.accepted? ∧
    ∀ i r, (u.run es).requests[i]? = some r →
      Explains (s.withHandlers handlers) es i r.raw r.seen r.progress ∧
      ∃ before after, es = before ++ .accept r.raw :: after ∧
        (u.run before).requests.length = i ∧ r.seen = (u.run before).server.live ∧
        r.seen.Current (c :: (u.run before).settled) := by
  intro u
  have hof : s.live.Of c := Server.live_of_start hs
  have hstart : u.Sound c [] := .start hof
  have hsound : (u.run es).Sound c (es.filterMap Event.pushed?) := hstart.run es
  have hstep := fun e => hsound.live_change (step_change (u.run es) e)
  refine ⟨hsound.queue, hsound.live, hstep, ?_, raws_run u es, ?_⟩
  · intro d built cause ht hc
    rcases hstep .settle with hsame | ⟨-, d', built', ht', hof⟩
    · exact hsame
    · obtain ⟨rfl, -⟩ : d = d' ∧ built = built' := by simpa [ht] using ht'
      rw [hof.1] at hc
      cases hc
  · intro i r hr
    obtain ⟨⟨before, after, rfl, hi, hseen⟩, hprogress⟩ := traced_run _ es i r hr
    refine ⟨hprogress, before, after, rfl, hi, hseen, ?_⟩
    rw [hseen]
    exact (hstart.run before).live

/-- A configuration whose first template is refused. -/
def broken : Config := { routes := [⟨"$id", "echo"⟩, ⟨"a", "home"⟩] }

/-- A configuration with an alias. -/
def renamed : Config := { routes := [⟨"a", "@a"⟩], aliases := [("a", "home")] }

/-- A request that comes in before two updates and is answered after them. -/
theorem run_current_renamed : ∃ s g u, Server.start {} {} = (.ok s, g) ∧
    u = (start (s.withHandlers Response.builtin)).run
      [.accept "/a", .push broken, .push renamed, .build, .settle, .resolve 0, .build, .settle,
        .fire 0] ∧
    u.settled = [broken, renamed] ∧ u.server.live.Current [{}, broken, renamed] ∧
    ∃ r, u.requests = [r] ∧ r.seen.Current [{}] := by
  obtain ⟨s, g, hs⟩ : ∃ s g, Server.start {} {} = (.ok s, g) := ⟨_, _, rfl⟩
  obtain ⟨-, hlive, -, -, hraws, hrequests⟩ := run_current hs Response.builtin
    [.accept "/a", .push broken, .push renamed, .build, .settle, .resolve 0, .build, .settle,
      .fire 0]
  have hsettled : ((start (s.withHandlers Response.builtin)).run
      [.accept "/a", .push broken, .push renamed, .build, .settle, .resolve 0, .build, .settle,
        .fire 0]).settled = [broken, renamed] := rfl
  generalize hu : (start (s.withHandlers Response.builtin)).run _ = u at *
  rw [hsettled] at hlive
  obtain ⟨r, hr, -⟩ := List.map_eq_singleton_iff.mp hraws
  obtain ⟨-, before, after, hes, hi, -, hseen⟩ := hrequests 0 r (by rw [hr]; rfl)
  -- it is the first request, so nothing happened before it came in
  have hfirst : before.filterMap Event.accepted? = [] := by
    have hbefore := raws_run (start (s.withHandlers Response.builtin)) before
    rw [List.length_eq_zero_iff.mp hi] at hbefore
    exact hbefore.symm
  refine ⟨s, g, u, hs, hu.symm, hsettled, hlive, r, hr, ?_⟩
  cases before with
  | nil => exact hseen
  | cons e before =>
    obtain ⟨rfl, -⟩ := List.cons.inj hes
    simp [Event.accepted?] at hfirst

end Traffic

end PathRouter
