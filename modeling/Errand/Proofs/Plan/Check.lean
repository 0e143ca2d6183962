import Mathlib
import Errand.Plan.Parser

/-!
# What is accepted as a plan

`check_eq_ok_iff` says when steps make up a plan: there is one at least, and none lacks a part. A
text is read as a plan only through that check, so what holds of checked steps holds of every plan
that has been read (`check_of_parse`).
-/

set_option autoImplicit false

namespace Errand.Plan

/-- Steps make up a plan if there is one at least and none lacks a part. -/
theorem check_eq_ok_iff {steps : List Step} {rawText : String} {plan : Plan} :
    check steps rawText = .ok plan ↔
      steps ≠ [] ∧ (∀ step ∈ steps, step.missingPart = none) ∧ plan = ⟨steps, rawText⟩ := by
  unfold check
  split
  · next hempty => simp_all
  · next hempty =>
    split
    · next part label hfound =>
      obtain ⟨step, hmem, hpart⟩ := List.exists_of_findSome?_eq_some hfound
      obtain ⟨missing, hmissing, -⟩ := Option.map_eq_some_iff.mp hpart
      refine ⟨nofun, fun ⟨_, hcomplete, _⟩ ↦ ?_⟩
      simp [hcomplete step hmem] at hmissing
    · next hfound =>
      simp only [List.findSome?_eq_none_iff, Option.map_eq_none_iff] at hfound
      constructor
      · intro h
        cases h
        exact ⟨by simpa using hempty, hfound, rfl⟩
      · rintro ⟨-, -, rfl⟩
        rfl

/-- A text is read as a plan only if its steps make one up. -/
theorem check_of_parse {text : String} {plan : Plan} (h : parse text = .ok plan) :
    check plan.steps text = .ok plan := by
  unfold parse at h
  simp only [bind, Except.bind] at h
  split at h
  · cases h
  · split at h
    · cases h
    · obtain ⟨-, -, rfl⟩ := check_eq_ok_iff.mp h
      exact h

/-- That a text is read as a plan can be seen from the plan alone. -/
theorem parse_of_toOption {text : String} {plan : Plan} (h : (parse text).toOption = some plan) :
    parse text = .ok plan := by
  cases hread : parse text with
  | error fault => simp [hread, Except.toOption] at h
  | ok read =>
    obtain rfl : read = plan := by simpa [hread, Except.toOption] using h
    rfl

theorem steps_ne_nil_of_parse {text : String} {plan : Plan} (h : parse text = .ok plan) :
    plan.steps ≠ [] :=
  (check_eq_ok_iff.mp (check_of_parse h)).1

end Errand.Plan
