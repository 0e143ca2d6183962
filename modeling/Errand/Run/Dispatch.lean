import Errand.Run.Team

/-!
# Carrying out a step

A step is carried out by one call. If it names the language model, its template, with results put
in, is the prompt. If it names an operation, the template with results put in is read as JSON and
handed over. The output is kept as JSON text under the step's id, so that later templates can hold
it in the place of a value. Nothing is kept of a step that failed.
-/

set_option autoImplicit false

namespace Errand

variable {σ : Type}

/-- The part of an operation's output that counts: the field `content` if there is one. -/
def unwrapContent (output : Json) : Json :=
  (output.field? "content").getD output

/-- The one call that a step makes, given its input, or the fault that keeps it from any. -/
def Step.call (team : Team σ) (step : Step) (input : String) (context : Operation.Context) :
    Except StepFault (Consult σ Json) :=
  if step.operation = modelName then
    .ok (Json.str <$> team.oracle input)
  else
    match team.registry.get? step.operation with
    | none => .error (.unknownOperation step.operation)
    | some operation =>
      match Json.parse input with
      | .error _ => .error (.malformedParameters step.operation input)
      | .ok parameters => .ok (unwrapContent <$> operation.invoke parameters context)

/-- Carries out a step, and keeps its output if it succeeds. -/
def Step.dispatch (team : Team σ) (step : Step) (context : Operation.Context) (watched : Bool)
    (results : Results) (scene : Scene σ) : Except StepFault String × Results × Scene σ :=
  match step.call team (results.resolve step.template) context with
  | .error fault => (.error fault, results, scene)
  | .ok call =>
    match scene.consult watched call with
    | (.error fault, scene) => (.error (.failed step.operation fault), results, scene)
    | (.ok value, scene) => (.ok value.pretty, results.insert step.id value.pretty, scene)

end Errand
