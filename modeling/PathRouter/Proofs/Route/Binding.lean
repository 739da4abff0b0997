import Mathlib.Data.List.Fold
import Mathlib.Data.List.MinMax
import PathRouter.Proofs.Pattern.Groups
import PathRouter.Proofs.Route.Edits

/-!
# Groups and parameters

A route has as many groups as parameters: the pattern of a template has one for each parameter, and
an imported route is refused otherwise, whatever its pattern looks like. A match reports as many
values as there are names (`Sound.length_captures?`). So a path binds each name to what the group of
its number takes, or, if a group takes no part in the match, nothing at all
(`Sound.verify?_eq_some_iff`). Edits keep this (`run_aligned`).
-/

namespace PathRouter

namespace Pattern

/-- A match reports as many groups as the number of the last one says. -/
theorem length_captures? {p : Pattern} {s : String} {vs : List (Option String)}
    (h : p.captures? s = some vs) : vs.length = p.groups.foldl max 0 := by
  obtain ⟨t, -, rfl⟩ := Option.map_eq_some_iff.mp h
  rw [List.length_map, List.length_range]

end Pattern

namespace Matcher

/-- The groups of a matcher are numbered in their order, each with a number of its own. -/
theorem pairwise_groups (m : Matcher) : m.pattern.groups.Pairwise (· < ·) :=
  (Pattern.pairwise_groups_of_read m.reads).1

/-- The numbers of the groups are those that a match reports. -/
theorem groups_within (m : Matcher) : ∀ i ∈ m.pattern.groups, 1 ≤ i ∧ i ≤ m.groupCount := by
  intro i hi
  refine ⟨(Pattern.pairwise_groups_of_read m.reads).2 i hi, ?_⟩
  show i ≤ m.pattern.groups.foldl max 0
  rw [List.foldl_eq_foldr]
  exact List.le_max_of_le' 0 hi le_rfl

/-- A group that is repeated zero times takes no part, but the one behind it keeps its number. -/
example : (ofText? "^/a/(x){0}(b)$").map (fun m => (m.groupCount, m.captures? "/a/b")) =
    some (2, some [none, some "b"]) := by
  decide +kernel

end Matcher

namespace Route

theorem length_paramNames (r : Route) :
    r.paramNames.length = r.segments.countP Segment.isParam := by
  rw [paramNames, Template.paramNames, List.length_map, List.countP_eq_length_filter]

variable {r : Route} {path : String} {vs : List (Option String)}

theorem Sound.length_captures? (h : r.Sound) (hv : r.matcher.captures? path = some vs) :
    vs.length = r.paramNames.length :=
  (Pattern.length_captures? hv).trans h.groups

/-- **What a sound route binds**: every name to what the group of its number takes. -/
theorem Sound.verify?_eq_some_iff (h : r.Sound) (hv : r.matcher.captures? path = some vs)
    {params : List (String × String)} :
    r.verify? path = some params ↔
      params.map Prod.fst = r.paramNames ∧ params.map (fun p => some p.2) = vs := by
  have hverify : r.verify? path = bind? r.paramNames vs := by
    rw [verify?, hv]
    rfl
  rw [hverify, bind?_eq_some_iff, ← h.length_captures? hv, List.take_length]

theorem verify?_eq_none (h : r.matcher.captures? path = none) : r.verify? path = none := by
  rw [verify?, h]
  rfl

/-- A group that takes no part in the match leaves the path untaken. -/
theorem Sound.verify?_eq_none (h : r.Sound) (hv : r.matcher.captures? path = some vs)
    (hnone : none ∈ vs) : r.verify? path = none := by
  rw [Option.eq_none_iff_forall_ne_some]
  intro params hp
  obtain ⟨-, hvalues⟩ := (h.verify?_eq_some_iff hv).mp hp
  rw [← hvalues] at hnone
  simp at hnone

/-- **At every point of a run the groups and the parameters line up**: a match reports one group for
each parameter, and they are numbered in the order in which they stand in the pattern. A path that
is taken binds the names in their order, each to what the group of its number takes; if a group
takes no part in the match, the path is not taken. -/
theorem run_aligned {start : Route} (h : Made start) (edits : List Edit) :
    (start.run edits).matcher.groupCount = (start.run edits).segments.countP Segment.isParam ∧
    (start.run edits).matcher.pattern.groups.Pairwise (· < ·) ∧
    (∀ i ∈ (start.run edits).matcher.pattern.groups,
      1 ≤ i ∧ i ≤ (start.run edits).paramNames.length) ∧
    ∀ path,
      ((start.run edits).matcher.captures? path = none → (start.run edits).verify? path = none) ∧
      ∀ values, (start.run edits).matcher.captures? path = some values →
        values.length = (start.run edits).paramNames.length ∧
        (∀ params, (start.run edits).verify? path = some params ↔
          params.map Prod.fst = (start.run edits).paramNames ∧
            params.map (fun p => some p.2) = values) ∧
        (none ∈ values → (start.run edits).verify? path = none) := by
  have hs : (start.run edits).Sound := h.sound.run edits
  refine ⟨hs.groups.trans (length_paramNames _), Matcher.pairwise_groups _, ?_, ?_⟩
  · rw [← hs.groups]
    exact Matcher.groups_within _
  · intro path
    refine ⟨Route.verify?_eq_none, ?_⟩
    intro values hv
    exact ⟨hs.length_captures? hv, fun params => hs.verify?_eq_some_iff hv, hs.verify?_eq_none hv⟩

/-- An exported text with a matcher of another hand, the second group of which can be missing from a
match. -/
def optional : String :=
  "\x7b\"v\":1,\"base\":\"a\"," ++
  "\"segments\":[[\"static\",\"a\"],[\"dynamic\",\"p\"],[\"dynamic\",\"q\"]]," ++
  "\"matcher\":\"^/a/(?:(b+)|c)(d)?$\",\"callback\":\x7b\"direct\":\"show\"\x7d\x7d"

/-- Edits of a route that change what it runs. -/
def redirected : List Edit := [.writeOut, .setCallback (.direct "edit")]

/-- Both groups take part in the match of the first path, and are bound; in that of the second path
one does not. -/
theorem run_aligned_optional : ∃ start, imported optional = .ok start ∧
    (start.run redirected).verify? "/a/bbd" = some [("p", "bb"), ("q", "d")] ∧
    (start.run redirected).matcher.captures? "/a/bb" = some [some "bb", none] ∧
    (start.run redirected).verify? "/a/bb" = none := by
  have hrun : (imported optional).toOption.map (fun r => ((r.run redirected).paramNames,
      (r.run redirected).matcher.captures? "/a/bbd",
      (r.run redirected).matcher.captures? "/a/bb")) =
      some (["p", "q"], some [some "bb", some "d"], some [some "bb", none]) := by decide +kernel
  cases hi : imported optional with
  | error e => simp [hi, Except.toOption] at hrun
  | ok start =>
    rw [hi] at hrun
    simp only [Except.toOption, Option.map_some, Option.some.injEq, Prod.mk.injEq] at hrun
    obtain ⟨hnames, htaken, hmissing⟩ := hrun
    obtain ⟨-, -, -, hpath⟩ := run_aligned (.imported hi) redirected
    obtain ⟨-, hbound, -⟩ := (hpath "/a/bbd").2 _ htaken
    obtain ⟨-, -, hnone⟩ := (hpath "/a/bb").2 _ hmissing
    exact ⟨start, rfl, (hbound _).mpr ⟨hnames.symm, rfl⟩, hmissing, hnone (by simp)⟩

end Route

end PathRouter
