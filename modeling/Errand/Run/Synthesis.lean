import Errand.Run.Basic

/-!
# What an answer is made of

The solver is given the task and one result. Which one is a setting: the result under the id whose
first use came latest, or the result under the id of the last step of the plan. The two differ only
if the last step uses an id again.
-/

set_option autoImplicit false

namespace Errand

/-- Which result the solver is given. -/
inductive SolverInput
  | lastInserted
  | lastPlanStep
deriving DecidableEq, Repr, Inhabited

/-- The name of a choice. -/
def SolverInput.name : SolverInput → String
  | .lastInserted => "last_inserted"
  | .lastPlanStep => "last_plan_step"

/-- All choices, by name. -/
def SolverInput.all : List (String × SolverInput) :=
  [SolverInput.lastInserted, .lastPlanStep].map fun input => (input.name, input)

/-- What the solver is asked. -/
structure SolverRequest where
  /-- The task, in the actor's words. -/
  task : String
  /-- The result that the answer is made of. -/
  lastResult : Option String
deriving DecidableEq, Repr

/-- The request for a plan whose steps have been carried out. -/
def SolverRequest.build (task : String) (plan : Plan) (results : Results) (input : SolverInput) :
    SolverRequest :=
  { task
    lastResult :=
      match input with
      | .lastInserted => results.last?.map (·.2)
      | .lastPlanStep => plan.steps.getLast?.bind fun step => results.get? step.id }

end Errand
