import PathRouter.Proofs.Route.Cached

/-!
# Edited routes

A route is compiled, made for a slot or imported (`Made`) and then edited (`Edit`). The text that it
may keep is a second copy of what it is: importing brings it in, exporting makes it, and an edit that
changes the route has to drop it. No edit leaves the two apart (`Sound.edit`), so at every point of a
run the exported text is read as the route, and an edit that changes nothing leaves the text as it
is, however it was written (`run_coherent`).
-/

namespace PathRouter.Route

/-- What can be done with a route: its exported text is written out, it is copied, given another
callback, compiled anew from a template, or replaced by what its exported text is read as. -/
inductive Edit where
  | writeOut
  | copy
  | setCallback (callback : Callback)
  | recompile (limit : Nat) (template : String)
  | reimport

/-- The ways in which a route comes about. -/
inductive Made : Route → Prop where
  | compiled {limit : Nat} {template : String} {callback : Callback} {r : Route}
    (h : compile limit template callback = .ok r) : Made r
  | special (callback : Callback) : Made (special callback)
  | imported {blob : String} {r : Route} (h : imported blob = .ok r) : Made r

/-- The route after an edit; one that fails leaves it as it was. -/
def edit (r : Route) : Edit → Route
  | .writeOut => r.reloaded
  | .copy => r
  | .setCallback callback => r.setCallback callback
  | .recompile limit template =>
    match r.recompile limit template with
    | .ok s => s
    | .error _ => r
  | .reimport =>
    match imported r.exported with
    | .ok s => s
    | .error _ => r

/-- The route after some edits, the first one first. -/
def run (r : Route) (edits : List Edit) : Route := edits.foldl edit r

/-- Whether an edit changes nothing: it sets no callback, and the template that it compiles, if there
is one, is refused. -/
def Edit.Idle : Edit → Prop
  | writeOut | copy | reimport => True
  | setCallback _ => False
  | recompile limit template => ∃ e, Template.read limit template = .error e

variable {r : Route}

theorem Made.sound (h : Made r) : r.Sound := by
  cases h with
  | compiled h => exact sound_compile h
  | special callback => exact sound_special callback
  | imported h => exact sound_imported h

/-! ### One edit -/

theorem Sound.reloaded (h : r.Sound) : r.reloaded.Sound := by
  refine ⟨h.base, h.groups, ?_⟩
  intro blob hb
  obtain rfl : r.exported = blob := Option.some.inj hb
  exact imported_exported h

theorem Sound.setCallback (h : r.Sound) (callback : Callback) : (r.setCallback callback).Sound :=
  ⟨h.base, h.groups, by simp [Route.setCallback]⟩

/-- Replacing a sound route by what its text is read as makes it keep the text. -/
theorem edit_reimport (h : r.Sound) : r.edit .reimport = r.reloaded := by
  rw [edit, imported_exported h]
  rfl

/-- **No edit leaves the text and the route apart.** -/
theorem Sound.edit (h : r.Sound) (e : Edit) : (r.edit e).Sound := by
  cases e with
  | writeOut => exact h.reloaded
  | copy => exact h
  | setCallback callback => exact h.setCallback callback
  | recompile limit template =>
    rw [Route.edit]
    cases hc : r.recompile limit template with
    | ok s => exact sound_compile hc
    | error e => exact h
  | reimport => exact edit_reimport h ▸ h.reloaded

theorem edit_recompile_of_error {limit : Nat} {template : String} {e : CompileError}
    (h : r.recompile limit template = .error e) : r.edit (.recompile limit template) = r := by
  rw [edit, h]

/-- A template that is refused is refused for every callback. -/
theorem recompile_eq_error {limit : Nat} {template : String} {e : CompileError}
    (h : Template.read limit template = .error e) : r.recompile limit template = .error e := by
  rw [recompile, compile, h]
  rfl

/-- An idle edit leaves the text as it is. -/
theorem exported_edit (h : r.Sound) {e : Edit} (he : e.Idle) : (r.edit e).exported = r.exported := by
  cases e with
  | writeOut => rfl
  | copy => rfl
  | setCallback callback => exact he.elim
  | recompile limit template =>
    obtain ⟨e, he⟩ := he
    rw [edit_recompile_of_error (recompile_eq_error he)]
  | reimport => rw [edit_reimport h]; rfl

/-! ### Runs -/

theorem Sound.run (h : r.Sound) (edits : List Edit) : (r.run edits).Sound := by
  induction edits generalizing r with
  | nil => exact h
  | cons e edits ih => exact ih (h.edit e)

theorem exported_run (h : r.Sound) {edits : List Edit} (he : ∀ e ∈ edits, e.Idle) :
    (r.run edits).exported = r.exported := by
  induction edits generalizing r with
  | nil => rfl
  | cons e edits ih =>
    have hedits : ∀ d ∈ edits, d.Idle := fun d hd => he d (List.mem_cons_of_mem _ hd)
    exact (ih (h.edit e) hedits).trans (exported_edit h (he e List.mem_cons_self))

/-- **At every point of a run** the exported text is read as the route, and what is read is exported
as the same text; an imported route is exported as the text it was read from as long as no edit
changes it; and a template that is refused changes neither the route nor its text. -/
theorem run_coherent {start : Route} (h : Made start) (edits : List Edit) :
    (∃ s, imported (start.run edits).exported = .ok s ∧ (start.run edits).same s ∧
      s.exported = (start.run edits).exported) ∧
    (∀ blob, imported blob = .ok start → (∀ e ∈ edits, e.Idle) →
      (start.run edits).exported = blob) ∧
    ∀ limit template e, (start.run edits).recompile limit template = .error e →
      start.run (edits ++ [.recompile limit template]) = start.run edits := by
  have hs : (start.run edits).Sound := h.sound.run edits
  refine ⟨⟨_, imported_exported hs, by simp [same], rfl⟩, ?_, ?_⟩
  · intro blob hb he
    obtain ⟨hsource, -⟩ := imported_eq_ok hb
    rw [exported_run h.sound he, exported, hsource, Option.getD_some]
  · intro limit template e he
    have happend : start.run (edits ++ [.recompile limit template]) =
        (start.run edits).edit (.recompile limit template) := by simp [Route.run]
    rw [happend, edit_recompile_of_error he]

/-- An exported text with its fields in another order, with blanks and with a field more. -/
def foreign : String :=
  "\x7b \"v\": 1, \"note\": null, \"callback\": \x7b\"direct\": \"show\"\x7d, \"base\": \"shop\"," ++
  " \"segments\": [\x7b\"kind\": \"static\", \"name\": \"shop\"\x7d], \"matcher\": \"^/shop$\" \x7d"

/-- A route from another writer's text: the text stays until a callback is set. -/
theorem run_coherent_foreign : ∃ start,
    imported foreign = .ok start ∧
    (start.run [.writeOut, .recompile 15 "$id", .copy, .reimport]).exported = foreign ∧
    ∃ s, imported (start.run [.writeOut, .setCallback (.direct "edit"), .writeOut]).exported = .ok s ∧
      (start.run [.writeOut, .setCallback (.direct "edit"), .writeOut]).same s := by
  have hok : (imported foreign).toOption.isSome := by decide +kernel
  obtain ⟨start, hstart⟩ : ∃ start, imported foreign = .ok start := by
    cases hi : imported foreign with
    | ok start => exact ⟨start, rfl⟩
    | error e => simp [hi, Except.toOption] at hok
  have hidle : ∀ e ∈ [Edit.writeOut, .recompile 15 "$id", .copy, .reimport], e.Idle := by
    simp only [List.mem_cons, List.not_mem_nil, or_false, forall_eq_or_imp, forall_eq]
    exact ⟨trivial, ⟨_, rfl⟩, trivial, trivial⟩
  obtain ⟨-, htext, -⟩ := run_coherent (.imported hstart)
    [.writeOut, .recompile 15 "$id", .copy, .reimport]
  obtain ⟨⟨s, hs, hsame, -⟩, -⟩ := run_coherent (.imported hstart)
    [.writeOut, .setCallback (.direct "edit"), .writeOut]
  exact ⟨start, hstart, htext foreign hstart hidle, s, hs, hsame⟩

end PathRouter.Route
