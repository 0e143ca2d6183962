import Errand.Fault

/-!
# Faults of a run

Why a step, or a whole run, failed. A run keeps the position and the id of the step that failed. The
phase says how far the run had come; callers are told the phase, not the stage.
-/

set_option autoImplicit false

namespace Errand

/-- Why a step could not be carried out. -/
inductive StepFault
  /-- With results put in, the parameters are no JSON. -/
  | malformedParameters (operation input : String)
  /-- No operation has the name. -/
  | unknownOperation (operation : String)
  /-- The operation or the language model failed. -/
  | failed (operation : String) (cause : Fault)
deriving DecidableEq, Repr

/-- The operation that the step named. -/
def StepFault.operation : StepFault → String
  | .malformedParameters operation _ => operation
  | .unknownOperation operation => operation
  | .failed operation _ => operation

/-- The wording of a fault. -/
def StepFault.message : StepFault → String
  | .malformedParameters operation input =>
    "Invalid JSON input for operation '" ++ operation ++ "'. Input: " ++ input
  | .unknownOperation operation => "Unsupported operation: " ++ operation
  | .failed operation cause => "Operation '" ++ operation ++ "' failed: " ++ cause.message

/-- Why a run ended without an answer. -/
inductive RunFault
  /-- The planner failed. -/
  | planning (cause : Fault)
  /-- What the planner wrote is no plan. -/
  | planText (message : String)
  /-- A step failed; steps are numbered from one. -/
  | step (index : Nat) (id : String) (cause : StepFault)
  /-- The solver failed. -/
  | solver (cause : Fault)
  /-- The parts of the run do not fit together. -/
  | routing (message : String)
  /-- The progress of the run could not be kept. -/
  | checkpoint (cause : Fault)
deriving DecidableEq, Repr

/-- The wording of a fault. -/
def RunFault.message : RunFault → String
  | .planning cause => "Failed to generate plan: " ++ cause.message
  | .planText message => "Plan parsing failed: " ++ message
  | .step index id cause =>
    "Step " ++ toString index ++ " (" ++ id ++ ") failed: " ++ cause.message
  | .solver cause => "Failed to synthesize answer: " ++ cause.message
  | .routing message => "Workflow routing failed: " ++ message
  | .checkpoint cause => "Checkpoint store failed: " ++ cause.message

/-- How far a run had come when it failed. -/
inductive Phase
  | planning
  | execution
  | synthesis
  | internal
deriving DecidableEq, Repr

/-- The name of a phase. -/
def Phase.name : Phase → String
  | .planning => "planning"
  | .execution => "execution"
  | .synthesis => "synthesis"
  | .internal => "internal"

/-- All phases, by name. -/
def Phase.all : List (String × Phase) :=
  [Phase.planning, .execution, .synthesis, .internal].map fun phase => (phase.name, phase)

/-- The phase of a fault. -/
def RunFault.phase : RunFault → Phase
  | .planning _ | .planText _ => .planning
  | .step .. => .execution
  | .solver _ => .synthesis
  | .routing _ | .checkpoint _ => .internal

/-- The number of the step that failed. -/
def RunFault.failedStep : RunFault → Option Nat
  | .step index _ _ => some index
  | _ => none

/-- The wordings of the causes of a fault, each the cause of the one before it. -/
def RunFault.causes : RunFault → List String
  | .planning cause | .solver cause | .checkpoint cause => [cause.message]
  | .step _ _ cause =>
    cause.message ::
      match cause with
      | .failed _ cause => [cause.message]
      | _ => []
  | .planText _ | .routing _ => []

end Errand
