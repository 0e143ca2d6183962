import Errand.Gateway.Router
import Errand.Messaging.Operations
import Errand.Model.Staff
import Errand.Rehearsal.Report
import Errand.Rehearsal.Sheet
import Errand.Service.Assembly

/-!
# Rehearsing the agent

A rehearsal assembles the agent from a cast of scripted collaborators and plays actions one after
another: it runs and resumes tasks, makes single transitions, calls the stores, invokes operations,
sends requests to the gateway, and lets calls fail from now on. Each action is answered by what came
of it, with the events that it showed and the calls that were made. An action that is impossible
ends the rehearsal.
-/

set_option autoImplicit false

namespace Errand.Rehearsal

open Sheet (part text text? texts items flag count?)

/-- The agent, assembled, and where it stands. -/
structure Performance where
  /-- The collaborators of runs. -/
  team : Team World
  /-- The service. -/
  app : Gateway.App World
  /-- Records exchanges; the service may or may not use it. -/
  recorder : Messaging.Recorder World
  /-- The run that single transitions work on. -/
  run : Option Run := none
  /-- The scene. -/
  scene : Scene World

/-- What comes of an action; nothing if it is impossible. -/
abbrev Action := Performance → Option (Report.Fields × Performance)

namespace Performance

/-! ### Actions -/

/-- Answers at once. -/
def reply (fields : Report.Fields) : Action :=
  fun stage => some (fields, stage)

/-- Makes a call. -/
def consult {α : Type} (call : Consult World α) (encode : α → Report.Fields) : Action :=
  fun stage =>
    let (outcome, scene) := stage.scene.consult false call
    let fields := match outcome with
      | .ok a => encode a
      | .error fault => Report.fault fault
    some (fields, { stage with scene })

/-- Changes the world. -/
def change (f : World → World) : Action :=
  fun stage =>
    some ([], { stage with scene := { stage.scene with outside := f stage.scene.outside } })

/-- The answer that holds a result. -/
def result {α : Type} (encode : α → Json) (a : α) : Report.Fields :=
  [("result", encode a)]

/-- The answer that holds a list of results. -/
def resultList {α : Type} (encode : α → Json) (items : List α) : Report.Fields :=
  [("result", .arr (items.map encode))]

/-- The task of an action, whose progress is followed. -/
def task (action : Json) : Task :=
  { instruction := text action "task", actor := text action "actor", watched := true }

/-- What is shown of the run that single transitions work on. -/
def shown (run : Run) : Report.Fields :=
  ("state", Report.run run) :: Report.progress run

/-- Actions on the run that single transitions work on. -/
def transitionAction (action : Json) : Action := fun stage =>
  let run := stage.run.getD (Run.start (task action))
  match text action "do" with
  | "start" =>
    let run := Run.start (task action)
    some (shown run, { stage with run := some run })
  | "set_state" =>
    match Json.decodeValue Run.decoder (part action "state") with
    | .ok run =>
      let run := { run with task := { run.task with watched := true } }
      some (shown run, { stage with run := some run })
    | .error error => some (Report.error "BadState" error.message, stage)
  | "advance" =>
    let transition := run.advance stage.team stage.scene
    some ((transition.fault.elim [] Report.runFault) ++ shown transition.run,
      { stage with run := some transition.run, scene := transition.scene })
  | _ =>
    let (outcome, scene) := run.drive stage.team (text action "thread") stage.scene
    match outcome with
    | .ok run => some (shown run, { stage with run := some run, scene })
    | .error fault => some (Report.runFault fault, { stage with scene })

/-- Actions on the vault. -/
def checkpointAction (action : Json) : Action := fun stage =>
  match stage.team.vault with
  | none => some ([("disabled", .bool true)], stage)
  | some vault =>
    let thread := text action "thread"
    let loaded (run : Option Run) : Report.Fields := [("state", Report.optional Report.run run)]
    let act : Action := match text action "call" with
      | "save" =>
        match Json.decodeValue Run.decoder (part action "state") with
        | .ok run => consult (vault.save thread run) fun _ => []
        | .error error => reply (Report.error "BadState" error.message)
      | "load" => consult (vault.load thread) loaded
      | "claim" => consult (vault.claim thread) loaded
      | "executor_claim" => fun stage =>
        let (outcome, scene) := Run.claim stage.team thread stage.scene
        some (Report.outcome outcome, { stage with scene })
      | "release" => consult (vault.release thread) fun _ => []
      | "delete" => consult (vault.delete thread) fun existed => [("existed", .bool existed)]
      | _ => reply []
    (act stage).map fun (fields, stage) =>
      let size := stage.scene.outside.checkpoints.size
      (fields ++ [("len", .nat size), ("empty", .bool (size == 0))], stage)

/-- Adds a user. -/
def addUser (user : Messaging.User) : Action :=
  change fun world => { world with messages := world.messages.addUser user }

/-- An action that needs a filter. -/
def withFilter (action : Json) (act : Messaging.Filter → Action) : Action :=
  match Sheet.filter (part action "filter") with
  | .ok filter => act filter
  | .error error => reply (Report.error "Data" error.message)

/-- Actions on the repository. -/
def repositoryAction (action : Json) : Action :=
  match text action "call" with
  | "find_user" =>
    consult (repository.findUser (text action "id"))
      (result (Report.optional Messaging.User.toJson))
  | "search_users_by_name" =>
    consult (repository.searchUsers (text action "name")) (resultList Messaging.User.toJson)
  | "add_user" =>
    match Json.decodeValue (Messaging.User.decoder World.now) (part action "user") with
    | .ok user => addUser user
    | .error error => reply (Report.error "BadUser" error.message)
  | "new_user" =>
    addUser { id := text action "id", name := text action "name", email := text action "email"
              createdAt := World.now }
  | "create_conversation" =>
    consult (repository.createConversation (texts action "participants"))
      (result Messaging.Conversation.toJson)
  | "find_conversation" =>
    consult (repository.findConversation (text action "id"))
      (result (Report.optional Messaging.Conversation.toJson))
  | "find_conversation_by_participants" =>
    consult (repository.findConversationOf (texts action "participants"))
      (result (Report.optional Messaging.Conversation.toJson))
  | "list_conversations_for" =>
    consult (repository.conversationsOf (text action "user"))
      (resultList Messaging.Conversation.toJson)
  | "create_message" =>
    consult (repository.createMessage
      { conversation := text action "conversation", sender := text action "sender"
        receiver := text action "receiver", content := text action "content" })
      (result Messaging.Message.toJson)
  | "list_messages" =>
    withFilter action fun filter =>
      consult (repository.listMessages filter (Sheet.page (part action "page")))
        (resultList Messaging.Message.toJson)
  | _ =>
    withFilter action fun filter => consult (repository.countMessages filter) (result .nat)

/-- Actions on the recorder of exchanges. -/
def exchangeAction (action : Json) : Action := fun stage =>
  let actor := text action "actor"
  if text action "call" = "task" then
    consult (stage.recorder.recordTask actor (text action "text"))
      (fun conversation => [("conversation", conversation.toJson),
        ("assistant", .str stage.recorder.assistant)]) stage
  else
    consult (stage.recorder.recordAnswer actor (text action "text"))
      (fun message => [("message", Report.optional Messaging.Message.toJson message)]) stage

/-- Asks for replies. -/
def suggestAction (action : Json) : Action := fun stage =>
  match stage.app.smartReplies with
  | none => some ([("disabled", .bool true)], stage)
  | some smartReplies =>
    match stage.scene.consult false
        (smartReplies.forConversation (text action "conversation")) with
    | (.error fault, scene) => some (Report.fault fault, { stage with scene })
    | (.ok none, _) => none
    | (.ok (some replies), scene) =>
      some ([("replies", .arr (replies.map .str))], { stage with scene })

/-- A request to the gateway. A body is sent as JSON unless its type is given. -/
def request (sheet : Json) : Gateway.Request :=
  let headers := ((part sheet "headers").fields?.getD []).map fun (name, value) =>
    (name, value.str?.getD "")
  let body := ((sheet.field? "body").map Json.compact).or (text? sheet "raw")
  let typed := headers.any fun header => header.1.map Char.toLower == "content-type"
  { method := (text? sheet "method").getD "GET", target := text sheet "path"
    headers := if body.isSome && !typed then headers ++ [("content-type", "application/json")]
      else headers
    body := body.getD "" }

/-- Whether the value of a header can be shown: it holds visible characters, spaces and tabs. -/
def isShowable (value : String) : Bool :=
  value.all fun c => c == '\t' || (' ' ≤ c && c ≤ '~')

/-- A response of the gateway; of the id of a request only what was sent is shown. -/
def response (sheet : Json) (response : Gateway.Response) : Report.Fields :=
  [("status", .nat response.status)] ++
    (response.contentType.map fun type => ("content-type", Json.str type)).toList ++
    (response.allow.map fun methods => ("allow", Json.str methods)).toList ++
    (if ((part sheet "headers").field? "x-request-id").isSome then
      [("x-request-id", .optStr (response.requestId.filter isShowable))]
    else [("has_request_id", .bool response.requestId.isSome)]) ++
    [("body", .str response.body)]

/-- Sends a request to the gateway. -/
def requestAction (action : Json) : Action := fun stage =>
  match Gateway.handle stage.app "fresh" (request action) stage.scene with
  | (none, _) => none
  | (some answer, scene) => some (response action answer, { stage with scene })

/-- What the registry holds. -/
def registryAction (action : Json) : Action := fun stage =>
  let registry := stage.team.registry
  some ([("names", .arr (registry.names.map .str)), ("len", .nat registry.size),
    ("contains", .bool (registry.contains (text action "name"))),
    ("catalog", .arr (registry.catalog.map Operation.Info.toJson)),
    ("rendered", .str (Prompt.catalog registry.catalog))], stage)

/-- Invokes an operation. -/
def invokeAction (action : Json) : Action := fun stage =>
  match stage.team.registry.get? (text action "operation") with
  | none => some ([("error", .str "NoSuchOperation")], stage)
  | some operation =>
    consult (operation.invoke (part action "params") { actor := text action "actor" })
      (result id) stage

/-- Lets a call fail from now on, or work again. -/
def failAction (action : Json) : Action :=
  let fault := match part action "error" with
    | .null => none
    | sheet => some (Sheet.fault sheet)
  change (·.setFailing (text action "target" ++ "." ++ text action "call") fault)

/-- An action. -/
def act (action : Json) : Action := fun stage =>
  let thread := text action "thread"
  match text action "do" with
  | "run" =>
    let (outcome, scene) := Run.perform stage.team thread (task action) stage.scene
    some (Report.outcome (outcome.map some), { stage with scene })
  | "resume" =>
    let (outcome, scene) := Run.resume stage.team thread true stage.scene
    some (Report.outcome outcome, { stage with scene })
  | "start" | "set_state" | "advance" | "drive" => transitionAction action stage
  | "checkpoint" => checkpointAction action stage
  | "invoke" => invokeAction action stage
  | "repo" => repositoryAction action stage
  | "exchange" => exchangeAction action stage
  | "smart_replies" => suggestAction action stage
  | "fail" => failAction action stage
  | "operations" => registryAction action stage
  | "http" => requestAction action stage
  | _ => some ([("error", .str "BadInput")], stage)

/-- The events and calls of the last action, unless there are none; they are forgotten. -/
def aside (stage : Performance) : Report.Fields × Performance :=
  let world := stage.scene.outside
  let events := if stage.scene.events.isEmpty then []
    else [("events", Json.arr (stage.scene.events.map Report.event))]
  let calls := if world.calls.isEmpty then [] else [("calls", Report.calls world)]
  (events ++ calls,
    { stage with
      scene := { stage.scene with events := [], outside := { world with calls := [] } } })

/-- Plays actions one after another. -/
def play (stage : Performance) : List Json → Option (List Json × Performance)
  | [] => some ([], stage)
  | action :: rest => do
    let (fields, stage) ← act action stage
    let (more, stage) := stage.aside
    let (answers, stage) ← play stage rest
    return (.obj (fields ++ more) :: answers, stage)

/-! ### Assembling -/

/-- The limits of the vault, if there is to be one. -/
def limits (sheet : Json) : Option Checkpoint.Limits :=
  match sheet with
  | .obj fields =>
    some { secondsToLive := (count? (.obj fields) "ttl_secs").getD 3600
           maxEntries := (count? (.obj fields) "max_entries").getD 1000 }
  | .bool true => some {}
  | _ => none

/-- The operations: those of the cast, and those of messaging if they are wanted. -/
def registry (sheet : Json) (assistant : String) : Except Fault (Registry World) := do
  let registry ← ({} : Registry World).registerAll (Sheet.operations (items sheet "operations"))
  if flag sheet "messaging" then
    registry.registerAll (Messaging.operations repository assistant)
  else return registry

/-- The team of a cast, and who suggests replies: a language model for every role, or speakers. -/
def cast (sheet : Json) (registry : Registry World) :
    Team World × (List Messaging.Line → Consult World (List String)) :=
  let team : Team World :=
    { planner, oracle, solver, registry
      vault := (limits (part sheet "checkpoints")).map fun _ => vault
      solverInput := Sheet.solverInput sheet }
  match part sheet "llm" with
  | .null =>
    (team, fun lines => .succeed (lines.map fun line => line.sender ++ ": " ++ line.message))
  | llm =>
    let model := (text? llm "model").getD "gemma2:2b"
    let binding (model : String) : Model.Binding World :=
      { transport, provider := Sheet.provider llm, model
        temperature := Sheet.singleOf (part llm "temperature") }
    ({ team with
        planner := Model.planner (binding model) registry.catalog
        oracle := Model.oracle (binding model)
        solver := Model.solver (binding ((text? llm "solver_model").getD model)) },
      Model.suggest (binding model))

/-- What starts and ends the ids of threads that are minted. -/
def threadMark : Char := '\uF8FF'

/-- Mints the id of a thread. -/
def freshThread (world : World) : String × World :=
  (String.ofList (threadMark :: (Nat.repr world.threads).toList ++ [threadMark]),
    { world with threads := world.threads + 1 })

/-- Assembles the agent. -/
def assemble (sheet : Json) : Except Service.Obstacle Performance := do
  let assistant := (text? sheet "assistant").getD "bot"
  let seed ← (Sheet.seed (part sheet "seed")).mapError .fault
  let registry ← (registry sheet assistant).mapError .fault
  let limits := limits (part sheet "checkpoints")
  if !limits.all (·.feasible) then throw .impossible
  let (team, suggest) := cast sheet registry
  let recorder : Messaging.Recorder World := { repository, assistant }
  let smartReplies : Option (Messaging.SmartReplies World) := match part sheet "smart_replies" with
    | .null | .bool false => none
    | settings =>
      some { repository, suggest
             window := (count? settings "window_secs").getD 300 * 1000000000
             now := fun _ => World.now }
  let world : World :=
    { planner := Sheet.speeches (part sheet "planner")
      oracle := Sheet.speeches (part sheet "oracle")
      solver := Sheet.speeches (part sheet "solver")
      deeds := Sheet.deeds (items sheet "operations")
      answers := Sheet.answers (part sheet "llm")
      messages := seed.store, checkpoints := { limits := limits.getD {} } }
  return { team, recorder
           app := { team, smartReplies, freshThread
                    recorder := if flag sheet "exchanges" then some recorder else none }
           scene := { outside := world } }

end Performance

end Errand.Rehearsal
