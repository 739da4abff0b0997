import PathRouter.Proofs.Config.Check
import PathRouter.Proofs.Startup.Compile

/-!
# Checking and compiling agree on templates

The check of a configuration collects all faults, compiling stops at the first template that is
refused. Of all checks only that of the routes reports templates (`findSome?_faults`), and it does so
in the order in which compiling adds them. So with a limit, compiling fails as the first template
that is reported; without one, the check reports the limit in place of the templates, and compiling
fails unless every route stands for the root path (`compileTable_agrees`).
-/

namespace PathRouter

open ConfigFault (cause?)

/-- Some faults report a template if they give a reason for a refusal. -/
theorem ConfigFault.isSome_findSome? {faults : List ConfigFault} :
    (faults.findSome? cause?).isSome ↔
      ∃ index path cause, ConfigFault.template index path cause ∈ faults := by
  rw [List.findSome?_isSome_iff]
  constructor
  · rintro ⟨f, hf, hs⟩
    cases f with
    | template index path cause => exact ⟨index, path, cause, hf⟩
    | _ => cases hs
  · rintro ⟨index, path, cause, hf⟩
    exact ⟨_, hf, rfl⟩

namespace Config

/-- Without a limit no template is read. -/
theorem findSome?_routeFaults_zero : ∀ (rs : List RouteDefinition) (index : Nat)
    (seen : List String), (routeFaults 0 index seen rs).findSome? cause? = none
  | [], _, _ => rfl
  | r :: rs, index, seen => by
    have ht : templateFaults 0 index seen r.path = ([], seen) := by simp [templateFaults]
    rw [routeFaults, ht, List.findSome?_append, findSome?_routeFaults_zero rs, List.append_nil]
    split_ifs <;> rfl

/-- **Checking and compiling agree on templates.** With a limit, compiling fails if and only if the
check reports a template, and then as the first one that it reports, whatever else it finds. Without
a limit, compiling fails if and only if some template does not consist of slashes, and the check
reports the limit and no template. -/
theorem compileTable_agrees (c : Config) :
    (c.router.maxSegments ≠ 0 →
      ((∃ e, compileTable c.router c.routes = .error e) ↔
        ∃ index path cause, ConfigFault.template index path cause ∈ c.faults) ∧
      ∀ e, compileTable c.router c.routes = .error e ↔
        c.faults.findSome? ConfigFault.cause? = some e) ∧
    (c.router.maxSegments = 0 →
      ((∃ e, compileTable c.router c.routes = .error e) ↔
        ∃ r ∈ c.routes, ¬ (r.path ≠ "" ∧ ∀ x ∈ r.path.toList, x = '/')) ∧
      ConfigFault.zeroSegmentLimit ∈ c.faults ∧
      ∀ index path cause, ConfigFault.template index path cause ∉ c.faults) := by
  constructor
  · intro hl
    have hfirst : ∀ e, compileTable c.router c.routes = .error e ↔
        c.faults.findSome? cause? = some e := by
      intro e
      rw [compileTable_eq_error_iff, findSome?_faults, findSome?_routeFaults hl]
    refine ⟨?_, hfirst⟩
    rw [← ConfigFault.isSome_findSome?, Option.isSome_iff_exists]
    exact exists_congr hfirst
  · intro hz
    have hnone : ¬ (c.faults.findSome? cause?).isSome := by
      rw [findSome?_faults, hz, findSome?_routeFaults_zero]
      decide
    refine ⟨?_, ?_, ?_⟩
    · have hrefused : ∀ r : RouteDefinition, (Template.refusal? 0 r.path).isSome ↔
          ¬ (r.path ≠ "" ∧ ∀ x ∈ r.path.toList, x = '/') := by
        intro r
        rw [← Template.isRoot_iff, ← Template.refusal?_zero, Option.isSome_iff_ne_none]
      simp only [compileTable_eq_error_iff, hz, ← Option.isSome_iff_exists,
        List.findSome?_isSome_iff, hrefused]
    · simp [faults, hz]
    · intro index path cause hf
      exact hnone (ConfigFault.isSome_findSome?.mpr ⟨index, path, cause, hf⟩)

/-- Two templates that are refused, behind other faults and between them. -/
def misprints : Config :=
  { listener := { bindAddress := "here" }
    routes := [⟨"/", "home"⟩, ⟨"user/$id:int", ""⟩, ⟨"user/$id:uuid", "show"⟩, ⟨"$id", "@show"⟩] }

/-- The same without a limit. -/
def unlimited : Config := { misprints with router := { maxSegments := 0 } }

theorem compileTable_agrees_misprints :
    compileTable misprints.router misprints.routes = .error (.unsupportedType "id" "uuid") ∧
    ∃ e, compileTable unlimited.router unlimited.routes = .error e := by
  obtain ⟨hlimit, -⟩ := compileTable_agrees misprints
  obtain ⟨-, hzero⟩ := compileTable_agrees unlimited
  obtain ⟨-, hfirst⟩ := hlimit (by decide)
  obtain ⟨hsome, -⟩ := hzero rfl
  refine ⟨(hfirst _).mpr (by decide +kernel), hsome.mpr ⟨⟨"$id", "@show"⟩, ?_, ?_⟩⟩
  · simp [unlimited, misprints]
  · simp

end Config

end PathRouter
