import Errand.Text.Blank

/-!
# Plans

A plan is a list of steps, together with the text that it was read from. A step has a title, an
operation and a template of its parameters; it may have an id under which later steps refer to its
result. `Plan.check` builds a plan only of steps that can be executed.
-/

set_option autoImplicit false

namespace Errand

/-- One unit of work. -/
structure Step where
  /-- What the step is for. -/
  title : String
  /-- The name of its result in later steps; empty if nothing refers to it. -/
  id : String
  /-- The name of the operation. -/
  operation : String
  /-- The parameters, with step ids in place of results. -/
  template : String
deriving DecidableEq, Repr, Inhabited

/-- A plan and the text that it was read from. -/
structure Plan where
  /-- The steps, in order. -/
  steps : List Step
  /-- The text. -/
  rawText : String
deriving DecidableEq, Repr, Inhabited

/-- Why a text or a list of steps is no plan. -/
inductive PlanFault
  /-- There is no step. -/
  | noSteps
  /-- A step lacks a part. -/
  | missing (part step : String)
  /-- A unit was recognised, but one of its parts is blank. -/
  | malformedUnit (text : String)
  /-- A line starts a unit that could not be recognised. -/
  | unrecognisedUnit (line : String)
deriving DecidableEq, Repr

/-- The wording of a fault. -/
def PlanFault.message : PlanFault → String
  | .noSteps => "No valid steps found in the generated plan"
  | .missing part step =>
    "Invalid plan step format: missing " ++ part ++ " in step '" ++ step ++ "'"
  | .malformedUnit text => "Invalid plan step format near '" ++ text ++ "'"
  | .unrecognisedUnit line => "Unrecognised plan step near '" ++ line ++ "'"

/-- How messages call a step: by its id or, if it has none, by its operation. -/
def Step.label (step : Step) : String :=
  if step.id = "" then step.operation else step.id

/-- The first part that an executable step lacks. -/
def Step.missingPart (step : Step) : Option String :=
  if Text.isAllBlank step.title then some "title"
  else if Text.isAllBlank step.operation then some "operation name"
  else if Text.isAllBlank step.template then some "parameters"
  else none

/-- Checks that a step can be executed. -/
def Step.check (step : Step) : Except PlanFault Unit :=
  match step.missingPart with
  | some part => .error (.missing part step.label)
  | none => .ok ()

/-- A plan of at least one step, all of them executable. -/
def Plan.check (steps : List Step) (rawText : String) : Except PlanFault Plan :=
  if steps.isEmpty then .error .noSteps
  else
    match steps.findSome? fun step => step.missingPart.map fun part => (part, step.label) with
    | some (part, label) => .error (.missing part label)
    | none => .ok { steps, rawText }

/-- The number of steps. -/
def Plan.size (plan : Plan) : Nat :=
  plan.steps.length

end Errand
