import Mathlib.Data.List.Basic
import PathRouter.Config.Check
import PathRouter.Proofs.Template.Reading

/-!
# What the check of a configuration finds

The faults of routes are those that the check of the routes finds (`filter_faults`), which reports
the templates that are refused in their order (`findSome?_routeFaults`). Once a check finds nothing,
the templates are read (`read_of_routeFaults`), the targets of aliases are no aliases
(`isAlias_of_aliasFaults`), and the aliases that callbacks name are there
(`isSome_of_unknownFaults`).
-/

namespace PathRouter

/-- Why the template that a fault reports is refused, if it reports one. -/
def ConfigFault.cause? : ConfigFault → Option CompileError
  | template _ _ cause => some cause
  | _ => none

/-- Whether a fault is one of a route. -/
def ConfigFault.isOfRoute : ConfigFault → Bool
  | emptyCallback _ | template _ _ _ | duplicateRoute _ _ => true
  | _ => false

namespace Config

variable {c : Config}

/-- Without faults there are none of any kind. -/
theorem parts_of_faults (h : c.faults = []) : c.router.maxSegments ≠ 0 ∧
    routeFaults c.router.maxSegments 0 [] c.routes = [] ∧ aliasFaults c.aliases = [] ∧
    c.unknownFaults = [] := by
  simp only [faults, List.append_eq_nil_iff] at h
  obtain ⟨⟨⟨⟨⟨⟨-, -⟩, hlimit⟩, -⟩, hroutes⟩, haliases⟩, hunknown⟩ := h
  refine ⟨?_, hroutes, haliases, hunknown⟩
  intro hz
  simp [hz] at hlimit

/-! ### The faults of the routes -/

theorem isOfRoute_templateFaults {limit index : Nat} {seen : List String} {path : String} :
    ∀ f ∈ (templateFaults limit index seen path).1, f.isOfRoute := by
  unfold templateFaults
  split_ifs
  · simp
  · split
    · simp [ConfigFault.isOfRoute]
    · dsimp only
      split_ifs <;> simp [ConfigFault.isOfRoute]

/-- The check of the routes finds faults of routes. -/
theorem isOfRoute_routeFaults {limit : Nat} :
    ∀ {rs : List RouteDefinition} {index : Nat} {seen : List String},
      ∀ f ∈ routeFaults limit index seen rs, f.isOfRoute
  | [], _, _ => by simp [routeFaults]
  | r :: rs, index, seen => by
    have hblank : ∀ f ∈ if isBlankText r.callback then [ConfigFault.emptyCallback index] else [],
        f.isOfRoute := by
      split_ifs <;> simp [ConfigFault.isOfRoute]
    intro f hf
    rw [routeFaults, List.mem_append, List.mem_append] at hf
    rcases hf with (hf | hf) | hf
    · exact hblank f hf
    · exact isOfRoute_templateFaults f hf
    · exact isOfRoute_routeFaults f hf

/-- **The faults of routes** are those that the check of the routes finds. -/
theorem filter_faults (c : Config) : c.faults.filter ConfigFault.isOfRoute =
    routeFaults c.router.maxSegments 0 [] c.routes := by
  have haddress : ∀ field value,
      (addressFaults field value).filter ConfigFault.isOfRoute = [] := by
    intro field value
    unfold addressFaults
    split_ifs <;> rfl
  have hmetrics : (if c.observability.metricsEnabled then
      addressFaults .metrics c.observability.metricsAddress else []).filter
        ConfigFault.isOfRoute = [] := by
    split_ifs
    · exact haddress _ _
    · rfl
  have hlimit : (if c.router.maxSegments = 0 then [ConfigFault.zeroSegmentLimit] else []).filter
      ConfigFault.isOfRoute = [] := by
    split_ifs <;> rfl
  have hspecial : (specialFaults c.router).filter ConfigFault.isOfRoute = [] := by
    unfold specialFaults
    split_ifs <;> rfl
  have halias : (aliasFaults c.aliases).filter ConfigFault.isOfRoute = [] := by
    rw [List.filter_eq_nil_iff]
    intro f hf
    obtain ⟨p, -, rfl⟩ := List.mem_map.mp hf
    exact Bool.false_ne_true
  have hunknown : c.unknownFaults.filter ConfigFault.isOfRoute = [] := by
    rw [List.filter_eq_nil_iff]
    intro f hf
    obtain ⟨s, -, hs⟩ := List.mem_filterMap.mp hf
    split at hs
    · split_ifs at hs
      rw [← Option.some.inj hs]
      exact Bool.false_ne_true
    · cases hs
  have hroutes : (routeFaults c.router.maxSegments 0 [] c.routes).filter ConfigFault.isOfRoute =
      routeFaults c.router.maxSegments 0 [] c.routes :=
    List.filter_eq_self.mpr isOfRoute_routeFaults
  simp only [faults, List.filter_append, haddress, hmetrics, hlimit, hspecial, halias, hunknown,
    hroutes, List.nil_append, List.append_nil]

/-- A fault of a route is found if the check of the routes finds it. -/
theorem mem_faults_iff_of_isOfRoute {f : ConfigFault} (h : f.isOfRoute) :
    f ∈ c.faults ↔ f ∈ routeFaults c.router.maxSegments 0 [] c.routes := by
  rw [← filter_faults, List.mem_filter, and_iff_left h]

/-- **The first template that a check reports** is the first that the check of the routes does. -/
theorem findSome?_faults (c : Config) : c.faults.findSome? ConfigFault.cause? =
    (routeFaults c.router.maxSegments 0 [] c.routes).findSome? ConfigFault.cause? := by
  rw [← List.head?_filterMap, ← List.head?_filterMap, ← filter_faults, List.filterMap_filter]
  congr 2
  funext f
  cases f <;> rfl

theorem findSome?_templateFaults {limit index : Nat} {seen : List String} {path : String}
    (hl : limit ≠ 0) : (templateFaults limit index seen path).1.findSome? ConfigFault.cause? =
      Template.refusal? limit path := by
  unfold templateFaults Template.refusal?
  by_cases hr : Template.isRoot path
  · simp [hr]
  · have hcond : (Template.isRoot path || limit == 0) = false := by simp [hr, hl]
    rw [hcond, if_neg (by decide), if_neg hr]
    cases Template.read limit path with
    | error e => rfl
    | ok ss =>
      dsimp only
      split_ifs <;> rfl

/-- **The first template that the check reports** is the first that is refused. -/
theorem findSome?_routeFaults {limit : Nat} (hl : limit ≠ 0) :
    ∀ {rs : List RouteDefinition} {index : Nat} {seen : List String},
      (routeFaults limit index seen rs).findSome? ConfigFault.cause? =
        rs.findSome? (fun r => Template.refusal? limit r.path)
  | [], _, _ => rfl
  | r :: rs, index, seen => by
    have hblank : (if isBlankText r.callback then [ConfigFault.emptyCallback index]
        else []).findSome? ConfigFault.cause? = none := by
      split_ifs <;> rfl
    rw [routeFaults, List.findSome?_append, List.findSome?_append, hblank, Option.none_or,
      findSome?_templateFaults hl, findSome?_routeFaults hl, List.findSome?_cons]
    cases Template.refusal? limit r.path <;> rfl

/-- **Every template is read**, unless it stands for the root path. -/
theorem read_of_routeFaults {limit : Nat} (hl : limit ≠ 0) {rs : List RouteDefinition}
    {index : Nat} {seen : List String} (h : routeFaults limit index seen rs = []) :
    ∀ r ∈ rs, Template.isRoot r.path ∨ ∃ ss, Template.read limit r.path = .ok ss := by
  intro r hr
  have hnone : rs.findSome? (fun r => Template.refusal? limit r.path) = none := by
    rw [← findSome?_routeFaults hl, h]
    rfl
  exact Template.refusal?_eq_none_iff.mp (List.findSome?_eq_none_iff.mp hnone r hr)

/-- **The target of an alias** is no alias. -/
theorem isAlias_of_aliasFaults {aliases : List (String × String)} (h : aliasFaults aliases = [])
    {p : String × String} (hp : p ∈ aliases) : (Callback.ofText p.2).isAlias = false := by
  rw [aliasFaults, List.map_eq_nil_iff, List.filter_eq_nil_iff] at h
  simpa using h p hp

/-- **An alias that a callback names** is there. -/
theorem isSome_of_unknownFaults (h : c.unknownFaults = []) {s name : String}
    (hs : s ∈ c.callbackTexts) (hc : Callback.ofText s = .aliased name) :
    (c.aliases.lookup name).isSome := by
  have hnone := List.filterMap_eq_nil_iff.mp h s hs
  rw [hc] at hnone
  by_contra hl
  simp [hl] at hnone

end Config

end PathRouter
