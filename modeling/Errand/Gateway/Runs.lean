import Errand.Gateway.App
import Errand.Gateway.Body
import Errand.Gateway.EventStream

/-!
# Serving runs

A client has a task run, or goes on with a run that failed. What is wrong with the request is found
before the run starts. A client that follows the progress gets an event stream; any other client
gets the outcome. Both lead to the same run: only the presentation differs. The answer of a run that
succeeded is recorded; whether that succeeds does not matter.
-/

set_option autoImplicit false

namespace Errand.Gateway

variable {σ : Type}

/-- The outcome of a run that succeeded, as a value. -/
def outcomeJson (thread : String) (run : Run) : Json :=
  .obj [("threadId", .str thread), ("answer", .str (run.answer.getD "")),
    ("steps", .arr ((run.plan.elim [] Plan.steps).map Step.toJson)),
    ("results", run.results.toJson)]

/-- Records the answer of a run that succeeded. -/
def recordAnswer (app : App σ) (outcome : Except RunFault Run) (scene : Scene σ) : Scene σ :=
  match app.recorder, outcome with
  | some recorder, .ok run =>
    match run.answer with
    | some answer => (scene.consult false (recorder.recordAnswer run.task.actor answer)).2
    | none => scene
  | _, _ => scene

/-- The response that presents an outcome: a stream of the events if they were followed. -/
def present (thread : String) (stream : Bool) (events : List Event)
    (outcome : Except RunFault Run) : Response :=
  if stream then
    let outcome := match outcome with
      | .ok run => .ok (run.answer.getD "")
      | .error fault => .error (Refusal.ofRunFault fault)
    { status := 200, contentType := some "text/event-stream"
      body := eventStream thread events outcome }
  else
    match outcome with
    | .ok run => .ofJson 200 (outcomeJson thread run)
    | .error fault => .ofRefusal (.ofRunFault fault)

/-- Drives a run, records its answer and presents the outcome. Its events are for the client alone.
-/
def serveRun (app : App σ) (thread : String) (stream : Bool)
    (drive : Scene σ → Except RunFault Run × Scene σ) (scene : Scene σ) : Response × Scene σ :=
  let (outcome, after) := drive { scene with events := [] }
  let response := present thread stream after.events outcome
  (response, recordAnswer app outcome { after with events := scene.events })

/-- Records a task, if that is wanted. -/
def recordTask (app : App σ) (request : RunRequest) (scene : Scene σ) :
    Except Fault Unit × Scene σ :=
  match app.recorder with
  | none => (.ok (), scene)
  | some recorder =>
    let (outcome, scene) := scene.consult false (recorder.recordTask request.actor request.task)
    (outcome.map fun _ => (), scene)

/-- The thread of a request, or a fresh one. -/
def threadOf (app : App σ) (request : RunRequest) (scene : Scene σ) : String × Scene σ :=
  match request.thread with
  | some thread => (thread, scene)
  | none =>
    let (thread, outside) := app.freshThread scene.outside
    (thread, { scene with outside })

/-- Serves a request to run a task. -/
def createRun (app : App σ) (request : Request) (scene : Scene σ) : Response × Scene σ :=
  match readBody RunRequest.decoder request with
  | .error refusal => (.ofRefusal refusal, scene)
  | .ok body =>
    match body.problem? with
    | some problem => (.ofRefusal (.badRequest problem), scene)
    | none =>
      let (thread, scene) := threadOf app body scene
      match recordTask app body scene with
      | (.error fault, scene) => (.ofRefusal (.ofFault fault), scene)
      | (.ok _, scene) =>
        let task := { instruction := body.task, actor := body.actor, watched := body.stream }
        serveRun app thread body.stream (Run.perform app.team thread task) scene

/-- Serves a request to go on with a run. -/
def resumeRun (app : App σ) (request : Request) (scene : Scene σ) : Response × Scene σ :=
  match readBody ResumeRequest.decoder request with
  | .error refusal => (.ofRefusal refusal, scene)
  | .ok body =>
    if Text.isAllBlank body.thread then
      (.ofRefusal (.badRequest "threadId cannot be empty"), scene)
    else if app.team.vault.isNone then
      (.ofRefusal (.notFound "Checkpointing is disabled"), scene)
    else
      match Run.claim app.team body.thread scene with
      | (.error fault, scene) => (.ofRefusal (.ofRunFault fault), scene)
      | (.ok none, scene) =>
        (.ofRefusal (.notFound ("No checkpoint for thread '" ++ body.thread ++ "'")), scene)
      | (.ok (some run), scene) =>
        serveRun app body.thread body.stream
          (run.resumeClaimed app.team body.thread body.stream) scene

end Errand.Gateway
