import Errand.Plan.Parser
import Errand.Run.Dispatch

/-!
# One transition of a run

`Run.advance` does what the stage of a run asks for: it has a plan written, carries out the step at
the cursor, or has the answer made. A transition that fails hands the run back together with the
fault. The measure of a run is what a successful transition makes smaller: first the stages that are
left, then the steps.
-/

set_option autoImplicit false

namespace Errand

variable {σ : Type}

/-- What comes of a transition. -/
structure Transition (σ : Type) where
  /-- Why it failed, if it did. -/
  fault : Option RunFault := none
  /-- The run afterwards. -/
  run : Run
  /-- The scene afterwards. -/
  scene : Scene σ

namespace Run

/-- Has a plan written and reads it. -/
def advancePlan (team : Team σ) (run : Run) (scene : Scene σ) : Transition σ :=
  match scene.consult false (team.planner run.task) with
  | (.error fault, scene) => { fault := some (.planning fault), run, scene }
  | (.ok text, scene) =>
    match Plan.parse text with
    | .error fault => { fault := some (.planText fault.message), run, scene }
    | .ok plan =>
      { run := { run with plan := some plan, stage := .tool }
        scene := scene.emit run.task.watched (.plan plan) }

/-- The sample of a step. -/
def stepSample (step : Step) (succeeded : Bool) : Metrics.Sample :=
  .count "workflow_steps_total"
    [("operation", step.operation), ("status", Metrics.status succeeded)]

/-- Carries out the step at the cursor. -/
def advanceTool (team : Team σ) (run : Run) (scene : Scene σ) : Transition σ :=
  match run.currentStep with
  | .error fault => { fault := some fault, run, scene }
  | .ok step =>
    match step.dispatch team { actor := run.task.actor } run.task.watched run.results scene with
    | (.error fault, results, scene) =>
      { fault := some (.step (run.cursor + 1) step.id fault), run := { run with results }
        scene := scene.report (stepSample step false) }
    | (.ok output, results, scene) =>
      let scene := scene.report (stepSample step true)
      let scene := scene.emit run.task.watched
        (.step step.id (Event.stepPayload (run.cursor + 1) step output))
      let run := { run with results, cursor := run.cursor + 1 }
      match run.stageAfterTool with
      | .error fault => { fault := some fault, run, scene }
      | .ok stage => { run := { run with stage }, scene }

/-- Has the answer made. -/
def advanceSolve (team : Team σ) (run : Run) (scene : Scene σ) : Transition σ :=
  match run.plan with
  | none => { fault := some (.routing "Solve stage entered without a plan"), run, scene }
  | some plan =>
    let request := SolverRequest.build run.task.instruction plan run.results team.solverInput
    match scene.consult run.task.watched (team.solver request) with
    | (.error fault, scene) => { fault := some (.solver fault), run, scene }
    | (.ok answer, scene) =>
      { run := { run with answer := some answer, stage := .done }, scene }

/-- Does what the stage of a run asks for. -/
def advance (team : Team σ) (run : Run) (scene : Scene σ) : Transition σ :=
  match run.stage with
  | .plan => run.advancePlan team scene
  | .tool => run.advanceTool team scene
  | .solve => run.advanceSolve team scene
  | .done => { fault := some (.routing "Run already finished"), run, scene }

/-! ### The measure -/

/-- How many stages are left. -/
def stagesLeft (run : Run) : Nat :=
  match run.stage with
  | .plan => 3
  | .tool => 2
  | .solve => 1
  | .done => 0

/-- How many steps are left. -/
def stepsLeft (run : Run) : Nat :=
  run.size - run.cursor

/-- A run that comes before another on the way to its end. -/
def Closer (a b : Run) : Prop :=
  a.stagesLeft < b.stagesLeft ∨ a.stagesLeft = b.stagesLeft ∧ a.stepsLeft < b.stepsLeft

/-- A plan and a step inside it stand behind a current step. -/
theorem currentStep_eq_ok {run : Run} {step : Step} (h : run.currentStep = .ok step) :
    ∃ plan, run.plan = some plan ∧ plan.steps[run.cursor]? = some step := by
  unfold currentStep at h
  split at h
  · cases h
  · next plan hplan =>
    split at h
    · next step' hstep =>
      cases h
      exact ⟨plan, (Option.filter_eq_some_iff.1 hplan).1, hstep⟩
    · cases h

/-- A successful transition brings a run closer to its end. -/
theorem closer_advance (team : Team σ) (run : Run) (scene : Scene σ)
    (h : (run.advance team scene).fault = none) :
    Closer (run.advance team scene).run run := by
  revert h
  unfold advance
  split
  · next hs =>
    unfold advancePlan
    split
    · simp
    · split
      · simp
      · intro _
        exact .inl (by simp [stagesLeft, hs])
  · next hs =>
    unfold advanceTool
    split
    · simp
    · next step hstep =>
      obtain ⟨plan, hplan, hget⟩ := currentStep_eq_ok hstep
      obtain ⟨hlt, -⟩ := List.getElem?_eq_some_iff.1 hget
      split
      · simp
      · simp only [stageAfterTool, hplan]
        intro _
        by_cases hle : plan.size ≤ run.cursor + 1
        · exact .inl (by simp [stagesLeft, hs, hle])
        · refine .inr ⟨by simp [stagesLeft, hs, hle], ?_⟩
          simp only [stepsLeft, size, hplan, Option.elim, Plan.size] at hlt ⊢
          omega
  · next hs =>
    unfold advanceSolve
    split
    · simp
    · dsimp only
      split
      · simp
      · intro _
        exact .inl (by simp [stagesLeft, hs])
  · simp

end Run

end Errand
