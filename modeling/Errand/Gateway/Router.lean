import Errand.Gateway.Health
import Errand.Gateway.Runs
import Errand.Web.PathPattern

/-!
# Routes

Every path that the service knows takes one method; a path that answers `GET` answers `HEAD` too,
without the body. A request whose method does not fit is told which ones do. Any `OPTIONS` request
is granted beforehand, without looking at the path. Every other request is given an id, which is the
one it came with if it came with one, and is reported.
-/

set_option autoImplicit false

namespace Errand.Gateway

variable {σ : Type}

/-- What can be asked of the service. -/
inductive Route
  | health
  | ready
  | live
  | operations
  | createRun
  | resumeRun
  | smartReplies
deriving DecidableEq, Repr

/-- All routes, by path. -/
def Route.all : List (String × Route) :=
  [("/health", .health), ("/ready", .ready), ("/live", .live),
    ("/v1/operations", .operations), ("/v1/agent/runs", .createRun),
    ("/v1/agent/runs/resume", .resumeRun), ("/v1/conversations/smart-replies", .smartReplies)]

/-- Whether a route is read from; others are sent to. -/
def Route.isRead : Route → Bool
  | .health | .ready | .live | .operations => true
  | .createRun | .resumeRun | .smartReplies => false

/-- The methods that a route takes. -/
def Route.allow (route : Route) : String :=
  if route.isRead then "GET,HEAD" else "POST"

/-- Whether a route takes a method. -/
def Route.takes (route : Route) (method : String) : Bool :=
  if route.isRead then method = "GET" || method = "HEAD" else method = "POST"

/-- Whether a page can be shown at a path beside the routes of the service. -/
def canShowAt (path : String) : Bool :=
  (Web.PathPattern.parse? path).isSome && !(Route.all.lookup path).any Route.isRead

/-- Whether a page is there for a request whose target is written as its path is. There is no answer
if the path is no pattern or no target. -/
def isShownAt? (path : String) : Option Bool := do
  let pattern ← Web.PathPattern.parse? path
  let target ← Web.Target.path? path
  return pattern.takes target.toList

/-- Serves a request for replies; there is no response if the window begins before all time. -/
def suggestReplies (app : App σ) (request : Request) (scene : Scene σ) :
    Option Response × Scene σ :=
  match readBody smartRepliesDecoder request with
  | .error refusal => (some (.ofRefusal refusal), scene)
  | .ok conversation =>
    if Text.isAllBlank conversation then
      (some (.ofRefusal (.badRequest "conversationId cannot be empty")), scene)
    else
      match app.smartReplies with
      | none => (some (.ofRefusal (.notFound "Smart replies are disabled")), scene)
      | some smartReplies =>
        match scene.consult false (smartReplies.forConversation conversation) with
        | (.error fault, scene) => (some (.ofRefusal (.ofFault fault)), scene)
        | (.ok none, scene) => (none, scene)
        | (.ok (some replies), scene) =>
          (some (.ofJson 200 (.obj [("replies", .arr (replies.map .str))])), scene)

/-- Serves a request on its route. -/
def Route.serve (route : Route) (app : App σ) (request : Request) (scene : Scene σ) :
    Option Response × Scene σ :=
  match route with
  | .health => (some Gateway.health, scene)
  | .ready =>
    let (response, scene) := Gateway.ready app scene
    (some response, scene)
  | .live => (some { status := 200 }, scene)
  | .operations =>
    (some (.ofJson 200 (.obj [("operations",
      .arr (app.team.registry.catalog.map Operation.Info.toJson))])), scene)
  | .createRun =>
    let (response, scene) := Gateway.createRun app request scene
    (some response, scene)
  | .resumeRun =>
    let (response, scene) := Gateway.resumeRun app request scene
    (some response, scene)
  | .smartReplies => suggestReplies app request scene

/-- Serves a request on the route that its path has. -/
def route (app : App σ) (request : Request) (scene : Scene σ) : Option Response × Scene σ :=
  match Route.all.lookup request.path with
  | none => (some { status := 404 }, scene)
  | some route =>
    if route.takes request.method then
      let (response, scene) := route.serve app request scene
      if request.method = "HEAD" then (response.map fun r => { r with body := "" }, scene)
      else (response, scene)
    else (some { status := 405, allow := some route.allow }, scene)

/-- Serves a request; there is no response if serving it is impossible. A request that comes
without an id is given `freshId`. -/
def handle (app : App σ) (freshId : String) (request : Request) (scene : Scene σ) :
    Option Response × Scene σ :=
  if !request.isSendable then (none, scene)
  else if request.method = "OPTIONS" then
    (some { status := 200, allow := (Route.all.lookup request.path).map Route.allow }, scene)
  else
    match route app request scene with
    | (none, scene) => (none, scene)
    | (some response, scene) =>
      let labels := Metrics.requestLabels request.method request.path response.status
      (some { response with requestId := some ((request.header? "x-request-id").getD freshId) },
        (scene.report (.count "http_requests_total" labels)).report
          (.measure "http_request_duration_seconds" labels))

end Errand.Gateway
