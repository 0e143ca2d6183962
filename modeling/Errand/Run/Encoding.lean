import Errand.Json.Decode
import Errand.Run.Basic
import Errand.Run.Synthesis

/-!
# Runs as JSON

A run is kept as JSON text and may be read from it again. A plan and an answer are left out while
there is none. Everything of a run is written but whether somebody watches it.
-/

set_option autoImplicit false

namespace Errand

open Json (Decoder Fields)

/-- A step as a value. -/
def Step.toJson (step : Step) : Json :=
  .obj [("title", .str step.title), ("step_id", .str step.id), ("operation", .str step.operation),
    ("params_template", .str step.template)]

/-- The shape of a step. -/
def Step.decoder : Decoder Step :=
  (Fields.done Step.mk
    |>.and (.required "title" Json.Decode.string)
    |>.and (.required "step_id" Json.Decode.string)
    |>.and (.required "operation" Json.Decode.string)
    |>.and (.required "params_template" Json.Decode.string)).decoder "struct PlanStep"

/-- A plan as a value. -/
def Plan.toJson (plan : Plan) : Json :=
  .obj [("steps", .arr (plan.steps.map Step.toJson)), ("raw_text", .str plan.rawText)]

/-- The shape of a plan. The steps are not checked again. -/
def Plan.decoder : Decoder Plan :=
  (Fields.done Plan.mk
    |>.and (.required "steps" (Json.Decode.list Step.decoder))
    |>.and (.required "raw_text" Json.Decode.string)).decoder "struct PlanDocument"

/-- Results as a value. -/
def Results.toJson (results : Results) : Json :=
  .obj (results.entries.map fun (id, output) => (id, .str output))

/-- The shape of results. -/
def Results.decoder : Decoder Results := fun place source =>
  Results.ofList <$> Json.Decode.map Json.Decode.string place source

/-- A task as a value. -/
def Task.toJson (task : Task) : Json :=
  .obj [("instruction", .str task.instruction), ("actor_id", .str task.actor)]

/-- The shape of a task. -/
def Task.decoder : Decoder Task :=
  (Fields.done (fun instruction actor => { instruction, actor : Task })
    |>.and (.required "instruction" Json.Decode.string)
    |>.and (.required "actor_id" Json.Decode.string)).decoder "struct Task"

/-- The shape of a stage. -/
def Stage.decoder : Decoder Stage :=
  Json.Decode.variant Stage.all

/-- The shape of a phase. -/
def Phase.decoder : Decoder Phase :=
  Json.Decode.variant Phase.all

/-- The shape of a choice of the solver's input. -/
def SolverInput.decoder : Decoder SolverInput :=
  Json.Decode.variant SolverInput.all

/-- A request to the solver as a value. -/
def SolverRequest.toJson (request : SolverRequest) : Json :=
  .obj [("task", .str request.task), ("last_result", .optStr request.lastResult)]

/-- The shape of a request to the solver. -/
def SolverRequest.decoder : Decoder SolverRequest :=
  (Fields.done SolverRequest.mk
    |>.and (.required "task" Json.Decode.string)
    |>.and (.optional "last_result" Json.Decode.string)).decoder "struct SolverRequest"

namespace Run

/-- A field that is only there if it has a value. -/
def fieldIfSome (name : String) : Option Json → List (String × Json)
  | none => []
  | some value => [(name, value)]

/-- A run as a value. -/
def toJson (run : Run) : Json :=
  .obj ([("task", run.task.toJson), ("stage", .str run.stage.name)] ++
    fieldIfSome "plan" (run.plan.map Plan.toJson) ++
    [("results", run.results.toJson), ("cursor", .nat run.cursor)] ++
    fieldIfSome "final_answer" (run.answer.map .str))

/-- The shape of a run. -/
def decoder : Decoder Run :=
  (Fields.done Run.mk
    |>.and (.required "task" Task.decoder)
    |>.and (.required "stage" Stage.decoder)
    |>.and (.nullable "plan" Plan.decoder)
    |>.and (.withDefault "results" Results.decoder .empty)
    |>.and (.withDefault "cursor" Json.Decode.usize 0)
    |>.and (.nullable "final_answer" Json.Decode.string)).decoder "struct WorkflowState"

/-- The text under which a run is kept. -/
def write (run : Run) : String :=
  run.toJson.compact

/-- The run that a text stands for. -/
def read (text : String) : Except Json.DecodeError Run :=
  Json.decodeText decoder text.toList

end Run

end Errand
