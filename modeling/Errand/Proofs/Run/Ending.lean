import Errand.Proofs.Plan.Check
import Errand.Proofs.Run.Driving

/-!
# Runs that come to their end

A run whose plan asks nobody but the language model cannot fail if everybody answers
(`Team.Willing`): every transition succeeds (`turn_of_willing`), so driving the run ends with an
answer (`Drives.succeeds`).
-/

set_option autoImplicit false

namespace Errand

variable {σ : Type}

/-- Whether a team has one plan for every task and one answer to every result, answers every prompt,
and keeps what it is given. -/
structure Team.Willing (team : Team σ) (thread : String) (plan : Plan) (answer : String) :
    Prop where
  planner : ∀ task outside, ∃ text, (team.planner task outside).1.outcome = .ok text ∧
    Plan.parse text = .ok plan
  oracle : ∀ prompt outside, ∃ text, (team.oracle prompt outside).1.outcome = .ok text
  solver : ∀ request outside, (team.solver request outside).1.outcome = .ok answer
  keep : ∀ run outside, (team.keep thread run outside).1 = .ok ()

namespace Run

/-- Whether a run is on its way through a plan to an answer. -/
def OnItsWay (plan : Plan) (answer : String) (run : Run) : Prop :=
  run.stage = .plan ∧ run.cursor = 0 ∨ run.plan = some plan ∧
    (run.stage = .tool ∧ run.cursor < plan.size ∨ run.stage = .solve ∨
      run.stage = .done ∧ run.answer = some answer)

variable {team : Team σ} {thread answer : String} {claimed : Bool} {plan : Plan} {run : Run}
  {outside after : σ} {outcome : Except RunFault Run}

/-- If all steps of the plan ask the language model, no transition of such a run fails. -/
theorem turn_of_willing (hteam : team.Willing thread plan answer)
    (hmodel : ∀ step ∈ plan.steps, step.operation = modelName) (hway : run.OnItsWay plan answer)
    (hdone : run.stage ≠ .done) (outside : σ) :
    ∃ next after, run.turn team outside = (none, next, after) ∧ next.OnItsWay plan answer := by
  rcases hway with ⟨hstage, hcursor⟩ | ⟨hplan, ⟨hstage, hcursor⟩ | hstage | ⟨hstage, -⟩⟩
  · obtain ⟨text, htext, hparse⟩ := hteam.planner run.task outside
    have hask : (team.ask (.plan run.task) outside).1.outcome = .ok (.str text) := by
      simp [Team.ask, htext, Except.map]
    rw [turn_of_asked outside (inquiry_plan team hstage), hask]
    simp only [settle_plan text hstage, hparse]
    refine ⟨_, _, rfl, .inr ⟨rfl, .inl ⟨rfl, ?_⟩⟩⟩
    rw [hcursor]
    exact List.length_pos_of_ne_nil (Plan.steps_ne_nil_of_parse hparse)
  · obtain ⟨step, hstep⟩ : ∃ step, plan.steps[run.cursor]? = some step :=
      ⟨_, List.getElem?_eq_getElem hcursor⟩
    have hcurrent := currentStep_eq_of_getElem? hplan hstep
    have hinquiry := inquiry_tool team hstage hcurrent
    rw [Step.inquiry, if_pos (hmodel step (List.mem_of_getElem? hstep)), Except.mapError]
      at hinquiry
    obtain ⟨text, htext⟩ := hteam.oracle (run.results.resolve step.template) outside
    have hask : (team.ask (.prompt (run.results.resolve step.template)) outside).1.outcome =
        .ok (.str text) := by
      simp [Team.ask, htext, Except.map]
    rw [turn_of_asked outside hinquiry, hask]
    simp only [settle_tool _ hstage hplan hcurrent]
    refine ⟨_, _, rfl, .inr ⟨hplan, ?_⟩⟩
    simp only [keepOutput]
    split
    · exact .inr (.inl rfl)
    · next hmore => exact .inl ⟨rfl, by omega⟩
  · have hinquiry := inquiry_solve team hstage hplan
    have hanswer := hteam.solver
      (SolverRequest.build run.task.instruction plan run.results team.solverInput) outside
    rw [turn_of_asked outside hinquiry, Team.ask, Consult.outcome_map, hanswer]
    simp only [Except.map, settle_solve answer hstage]
    exact ⟨_, _, rfl, .inr ⟨hplan, .inr (.inr ⟨rfl, rfl⟩)⟩⟩
  · exact absurd hstage hdone

/-- Then the run comes to its end with the answer. -/
theorem Drives.succeeds (hteam : team.Willing thread plan answer)
    (hmodel : ∀ step ∈ plan.steps, step.operation = modelName)
    (h : run.Drives team thread claimed outside outcome after) (hway : run.OnItsWay plan answer) :
    ∃ final, outcome = .ok final ∧ final.answer = some answer := by
  induction h with
  | @finished run _ hdone =>
    refine ⟨run, rfl, ?_⟩
    rcases hway with ⟨hstage, -⟩ | ⟨-, ⟨hstage, -⟩ | hstage | ⟨-, hanswer⟩⟩
    · cases hdone.symm.trans hstage
    · cases hdone.symm.trans hstage
    · cases hdone.symm.trans hstage
    · exact hanswer
  | @stopped run _ outside _ _ hdone hturn =>
    obtain ⟨next, after, hgoes, -⟩ := turn_of_willing hteam hmodel hway hdone outside
    simp [hgoes] at hturn
  | @lost run next outside between _ _ hdone hturn hkeep =>
    have hkept := hteam.keep next between
    simp [hkeep] at hkept
  | @onward run next outside _ _ _ _ hdone hturn _ _ ih =>
    obtain ⟨next', after, hgoes, hnext⟩ := turn_of_willing hteam hmodel hway hdone outside
    obtain ⟨rfl, rfl⟩ : _ ∧ _ := by simpa [hgoes] using hturn
    exact ih hnext

end Run
end Errand
