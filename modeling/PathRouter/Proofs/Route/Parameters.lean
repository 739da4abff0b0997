import Mathlib.Data.List.Induction
import Mathlib.Data.List.Nodup
import PathRouter.Proofs.Table.Run
import PathRouter.Proofs.Text.Decimal

/-!
# Parameters that are set

The parameters of a match can be set, one after another (`RouteMatch.setParams`). A name that is
bound keeps its place and a new one comes last, so the names that the match had stay in front, and
the new ones follow in the order in which they were set first (`Assoc.keys_putAll`). Under a name
the value is found that was set last for it, or else the one that the match bound to it
(`Assoc.lookup_putAll_eq_some_iff`). So what a match binds in the end is known from what it bound
and from what was set, and the status is read off one of its parameters
(`RouteMatch.bound_setParams`).
-/

namespace PathRouter

namespace Assoc

variable {κ ν : Type}

/-! ### What is found under a key -/

/-- Whether a value is the one that is set last for a key: behind it the key is not set again. -/
def LastPut (puts : List (κ × ν)) (key : κ) (value : ν) : Prop :=
  ∃ before after, puts = before ++ (key, value) :: after ∧ key ∉ after.map (·.1)

section Lookup

variable [BEq κ] [LawfulBEq κ] {ps : List (κ × ν)} {key : κ} {value : ν}

theorem lookup_eq_none_iff : ps.lookup key = none ↔ key ∉ ps.map (·.1) := by
  rw [List.lookup_eq_none_iff, List.mem_map]
  constructor
  · rintro h ⟨p, hp, rfl⟩
    simpa using h p hp
  · intro h p hp
    exact bne_iff_ne.mpr fun hk => h ⟨p, hp, hk.symm⟩

theorem lookup_reverse_eq_none_iff : ps.reverse.lookup key = none ↔ key ∉ ps.map (·.1) := by
  rw [lookup_eq_none_iff, List.map_reverse, List.mem_reverse]

/-- From behind, the value that is set last is found first. -/
theorem lookup_reverse_eq_some_iff :
    ps.reverse.lookup key = some value ↔ LastPut ps key value := by
  constructor
  · intro h
    obtain ⟨after, before, hps, hkey⟩ := List.lookup_eq_some_iff.mp h
    refine ⟨before.reverse, after.reverse, ?_, ?_⟩
    · rw [← List.reverse_reverse ps, hps]
      simp
    · rw [← lookup_eq_none_iff, List.lookup_eq_none_iff]
      exact fun p hp => hkey p (List.mem_reverse.mp hp)
  · rintro ⟨before, after, rfl, hkey⟩
    rw [List.reverse_append, List.reverse_cons, List.lookup_append, List.lookup_append,
      lookup_reverse_eq_none_iff.mpr hkey]
    simp

end Lookup

/-! ### Several keys -/

variable [DecidableEq κ]

/-- The pairs with the values of several keys set, one after another. -/
def putAll (puts ps : List (κ × ν)) : List (κ × ν) := puts.foldl (fun ps p => put p.1 p.2 ps) ps

theorem putAll_concat (puts ps : List (κ × ν)) (p : κ × ν) :
    putAll (puts ++ [p]) ps = put p.1 p.2 (putAll puts ps) := by
  rw [putAll, List.foldl_append]
  rfl

/-- Of the keys that are set those that are not present, each once, in the order in which they are
set first. -/
def newKeys (present set : List κ) : List κ := set.eraseDups.filter (· ∉ present)

theorem mem_newKeys {present set : List κ} {key : κ} :
    key ∈ newKeys present set ↔ key ∈ set ∧ key ∉ present := by
  simp [newKeys, List.mem_filter, List.mem_eraseDups]

/-- One more key is new unless it was present or set before. -/
theorem newKeys_concat (present set : List κ) (key : κ) :
    newKeys present (set ++ [key]) =
      if key ∈ present ++ newKeys present set then newKeys present set
      else newKeys present set ++ [key] := by
  have hlast : ([key].removeAll set).eraseDups = if key ∈ set then [] else [key] := by
    split_ifs with hset <;> simp [List.removeAll, hset, List.eraseDups_cons]
  rw [newKeys, List.eraseDups_append, List.filter_append, ← newKeys, hlast]
  by_cases hp : key ∈ present
  · -- a key that is present is filtered out, whether it was set before or not
    rw [if_pos (List.mem_append_left _ hp)]
    split <;> simp [hp]
  · by_cases hs : key ∈ set
    · rw [if_pos hs, if_pos (List.mem_append_right _ (mem_newKeys.mpr ⟨hs, hp⟩)), List.filter_nil,
        List.append_nil]
    · have hk : key ∉ present ++ newKeys present set := by simp [mem_newKeys, hp, hs]
      rw [if_neg hs, if_neg hk]
      simp [hp]

/-- **The keys after several are set**: those that were present, in their places, then the new ones.
-/
theorem keys_putAll (puts ps : List (κ × ν)) :
    (putAll puts ps).map (·.1) = ps.map (·.1) ++ newKeys (ps.map (·.1)) (puts.map (·.1)) := by
  -- one more key is put at the end exactly if it is new
  induction puts using List.reverseRecOn with
  | nil => simp [putAll, newKeys]
  | append_singleton puts p ih =>
    rw [putAll_concat, keys_put, ih, List.map_append, List.map_singleton, newKeys_concat]
    split
    · rfl
    · rw [List.append_assoc]

theorem nodup_put {ps : List (κ × ν)} (h : (ps.map (·.1)).Nodup) (key : κ) (value : ν) :
    ((put key value ps).map (·.1)).Nodup := by
  rw [keys_put]
  split_ifs with hk
  · exact h
  · exact List.Nodup.append h (List.nodup_singleton key) (List.disjoint_singleton.mpr hk)

theorem nodup_putAll {ps : List (κ × ν)} (h : (ps.map (·.1)).Nodup) (puts : List (κ × ν)) :
    ((putAll puts ps).map (·.1)).Nodup := by
  induction puts using List.reverseRecOn with
  | nil => exact h
  | append_singleton puts p ih => exact putAll_concat puts ps p ▸ nodup_put ih p.1 p.2

variable [BEq κ] [LawfulBEq κ]

/-- **What is found after several keys are set**: what was set last, or else what was there. -/
theorem lookup_putAll (puts ps : List (κ × ν)) (key : κ) :
    (putAll puts ps).lookup key = (puts.reverse.lookup key).or (ps.lookup key) := by
  induction puts using List.reverseRecOn with
  | nil => rfl
  | append_singleton puts p ih =>
    rw [putAll_concat, lookup_put, ih, List.reverse_concat, List.lookup_cons]
    by_cases hk : key = p.1
    · simp [hk]
    · rw [if_neg hk, beq_eq_false_iff_ne.mpr hk]

theorem lookup_putAll_eq_some_iff {ps : List (κ × ν)} (h : (ps.map (·.1)).Nodup)
    {puts : List (κ × ν)} {key : κ} {value : ν} :
    (putAll puts ps).lookup key = some value ↔
      LastPut puts key value ∨ key ∉ puts.map (·.1) ∧ (key, value) ∈ ps := by
  have hmem : ps.lookup key = some value ↔ (key, value) ∈ ps := ⟨mem_of_lookup, lookup_of_mem h⟩
  rw [lookup_putAll, Option.or_eq_some_iff, lookup_reverse_eq_some_iff,
    lookup_reverse_eq_none_iff, hmem]

theorem lookup_putAll_eq_none_iff {puts ps : List (κ × ν)} {key : κ} :
    (putAll puts ps).lookup key = none ↔ key ∉ puts.map (·.1) ∧ key ∉ ps.map (·.1) := by
  rw [lookup_putAll, Option.or_eq_none_iff, lookup_reverse_eq_none_iff, lookup_eq_none_iff]

end Assoc

namespace RouteMatch

/-- The match with several parameters set, one after another. -/
def setParams (m : RouteMatch) (calls : List (String × String)) : RouteMatch :=
  calls.foldl (fun m c => m.setParam c.1 c.2) m

theorem params_setParams (m : RouteMatch) (calls : List (String × String)) :
    (m.setParams calls).params = Assoc.putAll calls m.params := by
  induction calls generalizing m with
  | nil => rfl
  | cons c calls ih => exact ih (m.setParam c.1 c.2)

/-- The status is the number below `2 ^ 16` that the parameter of its name writes. -/
theorem status?_eq_some_iff {m : RouteMatch} {s : Nat} :
    m.status? = some s ↔
      ∃ text, m.param? "status" = some text ∧ Text.WritesNumber text s ∧ s < 2 ^ 16 := by
  rw [status?, Option.bind_eq_some_iff]
  exact exists_congr fun text => and_congr_right fun _ => Text.unsigned?_eq_some_iff

/-- **What a match binds after parameters are set**, if its names are distinct. They still are:
those that it had are in their places, and behind them are the new ones, each once, in the order in
which they were set first. Under a name the value is found that was set last for it, or else the one
that it was bound to, and nothing if there is neither. The status is the number that the parameter
of its name writes then. -/
theorem bound_setParams {m : RouteMatch} (h : (m.params.map Prod.fst).Nodup)
    (calls : List (String × String)) :
    ((m.setParams calls).params.map Prod.fst).Nodup ∧
    (m.setParams calls).params.map Prod.fst =
      m.params.map Prod.fst ++ Assoc.newKeys (m.params.map Prod.fst) (calls.map Prod.fst) ∧
    (∀ name value, (m.setParams calls).param? name = some value ↔
      Assoc.LastPut calls name value ∨ name ∉ calls.map Prod.fst ∧ (name, value) ∈ m.params) ∧
    (∀ name, (m.setParams calls).param? name = none ↔
      name ∉ calls.map Prod.fst ∧ name ∉ m.params.map Prod.fst) ∧
    ∀ s, (m.setParams calls).status? = some s ↔ ∃ text,
      (m.setParams calls).param? "status" = some text ∧ Text.WritesNumber text s ∧ s < 2 ^ 16 := by
  have hparam (name : String) :
      (m.setParams calls).param? name = (Assoc.putAll calls m.params).lookup name := by
    rw [param?, params_setParams]
  rw [params_setParams]
  refine ⟨Assoc.nodup_putAll h calls, Assoc.keys_putAll calls m.params, ?_, ?_, ?_⟩
  · intro name value
    rw [hparam]
    exact Assoc.lookup_putAll_eq_some_iff h
  · intro name
    rw [hparam]
    exact Assoc.lookup_putAll_eq_none_iff
  · exact fun s => status?_eq_some_iff

/-- A table with a route that binds two parameters. -/
def profileTable : Table :=
  Table.run {} [.setHome (.direct "home"), .setError (.direct "error"),
    .addRoute "user/$id:int/$tab" (.direct "profile")]

/-- Parameters to set on its matches: two new ones, each of them twice, and one that is bound. -/
def profileCalls : List (String × String) :=
  [("lang", "en"), ("status", "4o4"), ("tab", "likes"), ("lang", "de"), ("status", "+0404")]

/-- A parameter that is left alone, one that is replaced, two new ones, and one that is missing. -/
theorem bound_setParams_profile : ∃ m, profileTable.resolve "/user/42/posts" = .ok m ∧
    m.params = [("id", "42"), ("tab", "posts")] ∧
    (m.setParams profileCalls).params.map Prod.fst = ["id", "tab", "lang", "status"] ∧
    (m.setParams profileCalls).param? "id" = some "42" ∧
    (m.setParams profileCalls).param? "tab" = some "likes" ∧
    (m.setParams profileCalls).param? "lang" = some "de" ∧
    (m.setParams profileCalls).param? "page" = none ∧
    (m.setParams profileCalls).status? = some 404 := by
  have hanswer : (profileTable.resolve "/user/42/posts").toOption.map RouteMatch.params =
      some [("id", "42"), ("tab", "posts")] := by decide +kernel
  obtain ⟨m, hm, hparams⟩ := Option.map_eq_some_iff.mp hanswer
  have hnodup : (m.params.map Prod.fst).Nodup := by
    rw [hparams]
    decide
  obtain ⟨-, hnames, hvalue, hnone, hstatus⟩ := bound_setParams hnodup profileCalls
  simp only [hparams, List.map_cons, List.map_nil] at hnames hvalue hnone
  have hnew : Assoc.newKeys ["id", "tab"] (profileCalls.map Prod.fst) = ["lang", "status"] := by
    decide +kernel
  have htab : Assoc.LastPut profileCalls "tab" "likes" :=
    ⟨profileCalls.take 2, profileCalls.drop 3, rfl, by decide⟩
  have hlang : Assoc.LastPut profileCalls "lang" "de" :=
    ⟨profileCalls.take 3, profileCalls.drop 4, rfl, by decide⟩
  have htext : Assoc.LastPut profileCalls "status" "+0404" :=
    ⟨profileCalls.take 4, [], rfl, by decide⟩
  have hwrites : Text.WritesNumber "+0404" 404 :=
    ⟨['0', '4', '0', '4'], Or.inr (by decide), by decide, List.all_eq_true.mp (by decide), rfl⟩
  refine ⟨m, Call.toOption_eq_some.mp hm, hparams, ?_, ?_, ?_, ?_, ?_, ?_⟩
  · rw [hnames, hnew]
    rfl
  · exact (hvalue _ _).mpr (Or.inr ⟨by decide, by decide⟩)
  · exact (hvalue _ _).mpr (Or.inl htab)
  · exact (hvalue _ _).mpr (Or.inl hlang)
  · exact (hnone _).mpr ⟨by decide, by decide⟩
  · exact (hstatus 404).mpr ⟨_, (hvalue _ _).mpr (Or.inl htext), hwrites, by decide⟩

end RouteMatch

end PathRouter
