import Errand.Rehearsal.World

/-!
# Reporting on a rehearsal

What happened in a rehearsal, as JSON: faults by their kind, the calls that were made, the events
that were shown, runs with their results as pairs, and the sums of the samples.
-/

set_option autoImplicit false

namespace Errand.Rehearsal.Report

/-- Fields of an object. -/
abbrev Fields := List (String × Json)

/-! ### Faults -/

/-- The kind of a fault. -/
def kindOf : Fault → String
  | .notFound _ => "NotFound"
  | .validation _ => "Validation"
  | .permissionDenied _ => "PermissionDenied"
  | .provider _ _ => "Provider"
  | .configuration _ => "Configuration"
  | .conflict _ => "Conflict"
  | .internal _ => "Internal"
  | .storage _ => "Storage"

/-- A kind of error and its message. -/
def error (kind message : String) : Fields :=
  [("error", .str kind), ("message", .str message)]

/-- A fault. -/
def fault (fault : Fault) : Fields :=
  error (kindOf fault) fault.message

/-- The fault of a step. -/
def stepFault (fault : StepFault) : Fields :=
  let (kind, cause) : String × Json := match fault with
    | .malformedParameters .. => ("ParamParse", .null)
    | .unknownOperation _ => ("UnknownOperation", .null)
    | .failed _ cause => ("OperationExecution", .str (kindOf cause))
  error kind fault.message ++ [("operation", .str fault.operation), ("cause", cause)]

/-- The fault of a run. -/
def runFault (fault : RunFault) : Fields :=
  let (kind, cause) : String × Json := match fault with
    | .planning cause => ("Planning", .str (kindOf cause))
    | .planText _ => ("PlanParse", .null)
    | .step _ _ cause => ("Step", .obj (stepFault cause))
    | .solver cause => ("Solver", .str (kindOf cause))
    | .routing _ => ("Routing", .null)
    | .checkpoint cause => ("Checkpoint", .str (kindOf cause))
  error kind fault.message ++
    [("phase", .str fault.phase.name), ("step", (fault.failedStep.map Json.nat).getD .null),
      ("cause", cause)]

/-- The fault of a text that is no plan. -/
def planFault (fault : PlanFault) : Fields :=
  runFault (.planText fault.message)

/-! ### Runs -/

/-- Something that may be missing. -/
def optional {α : Type} (encode : α → Json) (a : Option α) : Json :=
  (a.map encode).getD .null

/-- Results as pairs. -/
def results (results : Results) : Json :=
  .arr (results.entries.map fun (id, output) => .arr [.str id, .str output])

/-- A run. -/
def run (run : Run) : Json :=
  match run.toJson with
  | .obj fields => .obj (Entries.set "results" (results run.results) fields)
  | value => value

/-- What a run says about itself. -/
def progress (run : Run) : Fields :=
  [("steps_total", .nat run.size), ("done", .bool run.isDone),
    ("current", match run.currentStep with
      | .ok step => step.toJson
      | .error fault => .obj (runFault fault)),
    ("after_tool", match run.stageAfterTool with
      | .ok stage => .str stage.name
      | .error fault => .obj (runFault fault))]

/-- The outcome of a run that may not have been there. -/
def outcome : Except RunFault (Option Run) → Fields
  | .ok last => [("state", optional run last)]
  | .error fault => runFault fault

/-! ### Events, calls, samples -/

/-- An event. -/
def event : Event → Json
  | .plan plan => .obj [("type", .str "plan"), ("plan", plan.toJson)]
  | .token text => .obj [("type", .str "token"), ("text", .str text)]
  | .step id payload =>
    .obj [("type", .str "step"), ("step_id", .str id), ("payload", payload)]

/-- A call of a service of language models. -/
def modelCall (stream : Bool) (call : Model.Call) : Json :=
  .obj [("to", .str "llm"), ("call", .str (if stream then "post_stream" else "post")),
    ("url", .str call.url),
    ("headers", .arr (call.headers.map fun (name, value) => .arr [.str name, .str value])),
    ("body", call.body)]

/-- A call. -/
def call : Call → Json
  | .operation name parameters actor =>
    .obj [("to", .str name), ("params", parameters), ("actor", .str actor)]
  | .planner task actor =>
    .obj [("to", .str "planner"), ("input", .obj [("task", .str task), ("actor", .str actor)])]
  | .oracle prompt => .obj [("to", .str "oracle"), ("input", .str prompt)]
  | .solver request => .obj [("to", .str "solver"), ("input", request.toJson)]
  | .model stream call => modelCall stream call
  | .vault method thread kept =>
    .obj ([("to", .str "checkpoints"), ("call", .str method), ("thread", .str thread)] ++
      match kept with
      | some (stage, cursor) => [("stage", .str stage.name), ("cursor", .nat cursor)]
      | none => [])

/-- The calls that were made. -/
def calls (world : World) : Json :=
  .arr (world.calls.map call)

/-- The name of the series of a sample, with its labels in order. -/
def seriesName (sample : Metrics.Sample) : String :=
  let labels := sample.labels.mergeSort fun a b => a.1 ≤ b.1
  let kind := match sample.kind with
    | .counter => "counter "
    | .histogram => "histogram "
  kind ++ sample.name ++ "\x7b" ++
    String.intercalate "," (labels.map fun (name, value) => name ++ "=" ++ value) ++ "\x7d"

/-- How many samples there are of each series, in order. -/
def samples (samples : List Metrics.Sample) : Json :=
  let counts := samples.foldl (fun (counts : List (String × Nat)) sample =>
    let name := seriesName sample
    Entries.set name ((counts.lookup name).getD 0 + 1) counts) []
  let sorted := counts.mergeSort fun a b => a.1 ≤ b.1
  .arr (sorted.map fun (name, count) => .arr [.str name, .nat count])

end Errand.Rehearsal.Report
