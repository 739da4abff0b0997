import PathRouter.Proofs.Config.Check
import PathRouter.Proofs.Startup.Compile
import PathRouter.Proofs.Table.Reload
import PathRouter.Registry

/-!
# Configurations without faults serve every path

The check of a configuration looks at the texts of callbacks and aliases, dispatching at the route
that a table answers with. They fit: every callback in a compiled table has a text that was checked
(`callback_of_compileCalls`), and a text that was checked stands for a function or a method
(`concrete_of_faults`). So a configuration without faults compiles, its table answers every path, and
firing an answer can only fail for want of a handler (`exists_resolve_fire`).
-/

namespace PathRouter

/-- A callback of a call that compiles a configuration has a text that is checked. -/
theorem callback_of_compileCalls {c : Config} {call : Call} {callback : Callback}
    (hc : call ∈ compileCalls c.router c.routes) (h : call.callback? = some callback) :
    ∃ s ∈ c.callbackTexts, callback = .ofText s := by
  rcases mem_compileCalls_iff.mp hc with rfl | rfl | ⟨r, hr, rfl⟩
  · exact ⟨c.router.home, by simp [Config.callbackTexts], (Option.some.inj h).symm⟩
  · exact ⟨c.router.error, by simp [Config.callbackTexts], (Option.some.inj h).symm⟩
  · refine ⟨r.callback, ?_, (Option.some.inj h).symm⟩
    exact List.mem_cons_of_mem _ (List.mem_cons_of_mem _ (List.mem_map_of_mem hr))

/-- Firing a match whose callback stands for a function or a method fails for want of a handler
only. -/
theorem RouteMatch.fire_of_concrete {α : Type} {m : RouteMatch} {aliases : Aliases}
    {target : Callback} (h : m.route.callback.concrete aliases = .ok target)
    (handlers : Handlers α) :
    (∃ run, handlers.find? target = some run ∧ m.fire handlers aliases = .ok (run m)) ∨
      handlers.find? target = none ∧
        m.fire handlers aliases = .error (.unresolvedHandler target.text) := by
  rw [fire, Handlers.handlerFor, h]
  cases hf : handlers.find? target with
  | some run => exact Or.inl ⟨run, rfl, by simp [bind, Except.bind, hf]⟩
  | none => exact Or.inr ⟨rfl, by simp [bind, Except.bind, hf]⟩

namespace Config

variable {c : Config}

theorem lookup_aliasRegistry (c : Config) (name : String) :
    c.aliasRegistry.lookup name = (c.aliases.lookup name).map Callback.ofText := by
  unfold aliasRegistry
  induction c.aliases with
  | nil => rfl
  | cons p ps ih =>
    rw [List.map_cons, List.lookup_cons, List.lookup_cons, ih]
    cases name == p.1 <;> rfl

/-- **A callback of a configuration without faults** stands for a function or a method. -/
theorem concrete_of_faults (h : c.faults = []) {s : String} (hs : s ∈ c.callbackTexts) :
    ∃ target, target.isAlias = false ∧
      (Callback.ofText s).concrete c.aliasRegistry = .ok target := by
  obtain ⟨-, -, haliases, hunknown⟩ := parts_of_faults h
  cases hc : Callback.ofText s with
  | direct name => exact ⟨.direct name, rfl, rfl⟩
  | method className methodName => exact ⟨.method className methodName, rfl, rfl⟩
  | aliased name =>
    obtain ⟨written, hw⟩ := Option.isSome_iff_exists.mp (isSome_of_unknownFaults hunknown hs hc)
    have htarget := isAlias_of_aliasFaults haliases (Assoc.mem_of_lookup hw)
    refine ⟨.ofText written, htarget, ?_⟩
    rw [Callback.concrete, lookup_aliasRegistry, hw]
    simp [htarget]

/-- **A configuration without faults serves every path**: it compiles, its table answers every path,
and firing the answer runs the handler of a function or a method, or fails because there is none. -/
theorem exists_resolve_fire (h : c.faults = []) :
    ∃ t, compileTable c.router c.routes = .ok t ∧ ∀ raw, ∃ m, t.resolve raw = .ok m ∧
      ∃ target, target.isAlias = false ∧ m.route.callback.concrete c.aliasRegistry = .ok target ∧
        ∀ {α : Type} (handlers : Handlers α),
          (∃ run, handlers.find? target = some run ∧
            m.fire handlers c.aliasRegistry = .ok (run m)) ∨
          handlers.find? target = none ∧
            m.fire handlers c.aliasRegistry = .error (.unresolvedHandler target.text) := by
  obtain ⟨hlimit, hroutes, -, -⟩ := parts_of_faults h
  obtain ⟨t, ht⟩ := exists_compileTable (read_of_routeFaults hlimit hroutes)
  refine ⟨t, ht, fun raw => ?_⟩
  obtain ⟨home, error, hh, he⟩ := slots_compileTable ht
  obtain ⟨m, hm⟩ := Table.exists_resolve hh he raw
  -- the callback of the answer was brought in by a call, so its text was checked
  have hcalls := not_addCached_compileCalls c.router c.routes
  obtain ⟨call, hcall, hc⟩ := Table.callback_of_resolve hcalls (compileTable_eq_ok ht ▸ hm)
  obtain ⟨s, hs, hs'⟩ := callback_of_compileCalls hcall hc
  obtain ⟨target, hno, htarget⟩ := concrete_of_faults h hs
  rw [← hs'] at htarget
  exact ⟨m, hm, target, hno, htarget, fun handlers => RouteMatch.fire_of_concrete htarget handlers⟩

/-- A configuration with an alias, a method and a home route set twice. -/
def bookshop : Config :=
  { router := { home := "@front", error := "Pages::missing" }
    routes := [⟨"/", "@front"⟩, ⟨"book/$id:int", "@book"⟩, ⟨"Search/$query", " find "⟩]
    aliases := [("book", "Books::show"), ("front", "index")] }

theorem exists_resolve_fire_bookshop : bookshop.faults = [] ∧
    ∃ t, compileTable bookshop.router bookshop.routes = .ok t ∧ ∃ m, t.resolve "/book/7" = .ok m ∧
      ∃ target : Callback, target.isAlias = false ∧
        m.fire ({} : Handlers Nat) bookshop.aliasRegistry =
          .error (.unresolvedHandler target.text) := by
  have hfaults : bookshop.faults = [] := by decide +kernel
  obtain ⟨t, ht, hall⟩ := exists_resolve_fire hfaults
  obtain ⟨m, hm, target, hno, -, hfire⟩ := hall "/book/7"
  refine ⟨hfaults, t, ht, m, hm, target, hno, ?_⟩
  rcases hfire ({} : Handlers Nat) with ⟨run, hrun, -⟩ | ⟨-, h⟩
  · cases target <;> simp [Handlers.find?] at hrun
  · exact h

end Config

end PathRouter
