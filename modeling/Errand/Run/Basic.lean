import Errand.Plan.Basic
import Errand.Results
import Errand.Run.Fault

/-!
# Runs

A run is a task on its way to an answer. It is planned, its steps are carried out one by one, and an
answer is made of their results. The cursor counts the steps that are done; it is the only mark of
progress. A run may come from a text written elsewhere, so its parts need not fit together, and the
functions here say what is wrong when they do not.
-/

set_option autoImplicit false

namespace Errand

/-- What an actor asks for. -/
structure Task where
  /-- The request, in the actor's words. -/
  instruction : String
  /-- The id of the actor. -/
  actor : String
  /-- Whether somebody follows the progress. -/
  watched : Bool := false
deriving DecidableEq, Repr, Inhabited

/-- What a run does next. -/
inductive Stage
  /-- Ask for a plan. -/
  | plan
  /-- Carry out a step. -/
  | tool
  /-- Ask for the answer. -/
  | solve
  /-- Nothing more. -/
  | done
deriving DecidableEq, Repr, Inhabited

/-- The name of a stage. -/
def Stage.name : Stage → String
  | .plan => "plan"
  | .tool => "tool"
  | .solve => "solve"
  | .done => "done"

/-- All stages, by name. -/
def Stage.all : List (String × Stage) :=
  [Stage.plan, .tool, .solve, .done].map fun stage => (stage.name, stage)

/-- A task on its way to an answer. -/
structure Run where
  /-- The task. -/
  task : Task
  /-- What is to be done next. -/
  stage : Stage
  /-- The plan, once there is one. -/
  plan : Option Plan := none
  /-- The outputs of the steps that are done. -/
  results : Results := .empty
  /-- The number of steps that are done. -/
  cursor : Nat := 0
  /-- The answer, once there is one. -/
  answer : Option String := none
deriving DecidableEq, Repr, Inhabited

namespace Run

/-- A run of a task that has not been planned yet. -/
def start (task : Task) : Run :=
  { task, stage := .plan }

/-- Whether nothing is left to do. -/
def isDone (run : Run) : Bool :=
  run.stage = .done

/-- The number of steps of the plan. -/
def size (run : Run) : Nat :=
  run.plan.elim 0 Plan.size

/-- The step to be carried out next. -/
def currentStep (run : Run) : Except RunFault Step :=
  match run.plan.filter fun plan => !plan.steps.isEmpty with
  | none => .error (.routing "Tool stage entered without plan steps")
  | some plan =>
    match plan.steps[run.cursor]? with
    | some step => .ok step
    | none =>
      .error (.routing ("Cursor " ++ toString run.cursor ++ " is past the last of " ++
        toString plan.size ++ " plan steps"))

/-- The stage after a step has been carried out. -/
def stageAfterTool (run : Run) : Except RunFault Stage :=
  match run.plan with
  | none => .error (.routing "No plan recorded after tool execution")
  | some plan => .ok (if plan.size ≤ run.cursor then .solve else .tool)

end Run

end Errand
