import Errand.Json.Basic
import Errand.Plan.Basic

/-!
# Events of a run

What somebody who follows a run gets to see: the plan once it has been read, the tokens of text that
arrive from a language model, and each step with its result.
-/

set_option autoImplicit false

namespace Errand

/-- Something that happened in a run. -/
inductive Event
  | plan (plan : Plan)
  | token (text : String)
  | step (id : String) (payload : Json)

/-- What is shown of a step that has been carried out; steps are numbered from one. -/
def Event.stepPayload (index : Nat) (step : Step) (output : String) : Json :=
  .obj [("index", .nat index), ("title", .str step.title), ("operation", .str step.operation),
    ("result", .str output)]

end Errand
