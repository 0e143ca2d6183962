import Errand.Gateway.Runs
import Errand.Proofs.Checkpoint.Forgetting

/-!
# What requests undertake

A request for a run is refused, or a run is set going for it: a new one, or one that was claimed.
`Order.undertake` is this decision, and `serve_eq` says that serving a request is making it and
then, for an `Undertaking`, driving the run. `Decision` tells the ways in which it is made, and what
has been done by then. `serveAll` serves one request after another and keeps a record of what was
undertaken.

`App.KeepsLossily` says that runs are kept in a store in memory, which may forget. Then a run is
driven for a request only if it is new or was kept for its thread (`Undertaking.Origin`).
-/

set_option autoImplicit false

namespace Errand.Gateway

variable {σ : Type}

/-- A request about runs. -/
inductive Order
  /-- To run a task. -/
  | create (request : Request)
  /-- To go on with a run. -/
  | resume (request : Request)

/-- A run that is set going for a request. -/
structure Undertaking (σ : Type) where
  /-- The thread of the run. -/
  thread : String
  /-- The run. -/
  run : Run
  /-- Whether the run was claimed. -/
  claimed : Bool
  /-- What the run acts in. -/
  scene : Scene σ

namespace Order

/-- Serves a request. -/
def serve (app : App σ) : Order → Scene σ → Response × Scene σ
  | .create request => createRun app request
  | .resume request => resumeRun app request

/-- What is set going for a request, or the refusal. -/
def undertake (app : App σ) (order : Order) (scene : Scene σ) :
    Except (Refusal × Scene σ) (Undertaking σ) :=
  match order with
  | .create request =>
    match readBody RunRequest.decoder request with
    | .error refusal => .error (refusal, scene)
    | .ok body =>
      match body.problem? with
      | some problem => .error (.badRequest problem, scene)
      | none =>
        let (thread, scene) := threadOf app body scene
        match recordTask app body scene with
        | (.error fault, scene) => .error (.ofFault fault, scene)
        | (.ok _, scene) =>
          let task := { instruction := body.task, actor := body.actor, watched := body.stream }
          .ok { thread, run := .start task, claimed := false, scene }
  | .resume request =>
    match readBody ResumeRequest.decoder request with
    | .error refusal => .error (refusal, scene)
    | .ok body =>
      if Text.isAllBlank body.thread then
        .error (.badRequest "threadId cannot be empty", scene)
      else if app.team.vault.isNone then
        .error (.notFound "Checkpointing is disabled", scene)
      else
        match Run.claim app.team body.thread scene with
        | (.error fault, scene) => .error (.ofRunFault fault, scene)
        | (.ok none, scene) =>
          .error (.notFound ("No checkpoint for thread '" ++ body.thread ++ "'"), scene)
        | (.ok (some run), scene) =>
          .ok { thread := body.thread, run := run.watch body.stream, claimed := true, scene }

end Order

namespace Undertaking

/-- Drives the run to its end; its events are for the client alone. -/
def drive (app : App σ) (undertaking : Undertaking σ) : Except RunFault Run × Scene σ :=
  (Journey.moving undertaking.run undertaking.claimed).complete app.team undertaking.thread
    { undertaking.scene with events := [] }

/-- Drives the run, records its answer and presents the outcome. -/
def finish (app : App σ) (undertaking : Undertaking σ) : Response × Scene σ :=
  let (outcome, after) := undertaking.drive app
  (present undertaking.thread undertaking.run.task.watched after.events outcome,
    recordAnswer app outcome { after with events := undertaking.scene.events })

/-- The run takes its course. -/
theorem drives (app : App σ) (undertaking : Undertaking σ) :
    undertaking.run.Drives app.team undertaking.thread undertaking.claimed
      undertaking.scene.outside (undertaking.drive app).1 (undertaking.drive app).2.outside :=
  Journey.drives_complete undertaking.run { undertaking.scene with events := [] }

end Undertaking

/-- A request that is not refused is served by driving a run. -/
theorem Order.serve_eq (app : App σ) (order : Order) (scene : Scene σ) :
    order.serve app scene =
      match order.undertake app scene with
      | .error (refusal, after) => (.ofRefusal refusal, after)
      | .ok undertaking => undertaking.finish app := by
  cases order with
  | create request =>
    simp only [serve, undertake, createRun]
    cases readBody RunRequest.decoder request with
    | error refusal => rfl
    | ok body =>
      dsimp only
      cases body.problem? with
      | some problem => rfl
      | none =>
        dsimp only
        rcases recordTask app body (threadOf app body scene).2 with ⟨fault | _, after⟩ <;> rfl
  | resume request =>
    simp only [serve, undertake, resumeRun]
    cases readBody ResumeRequest.decoder request with
    | error refusal => rfl
    | ok body =>
      dsimp only
      split
      · rfl
      · split
        · rfl
        · rcases Run.claim app.team body.thread scene with ⟨fault | granted, after⟩
          · rfl
          · cases granted <;> rfl

/-! ### What is decided -/

/-- How it is decided what is undertaken for a request: the request may be turned away at once, its
task may not be recorded, its thread may not be claimed; otherwise there is a run for it. -/
inductive Decision (app : App σ) (scene : Scene σ) :
    Order → Except (Refusal × Scene σ) (Undertaking σ) → Prop
  /-- The request makes no sense, or runs are not kept at all. -/
  | away {order : Order} (refusal : Refusal) : Decision app scene order (.error (refusal, scene))
  /-- The task cannot be recorded. -/
  | unrecorded {request : Request} {body : RunRequest} {fault : Fault} {after : Scene σ}
      (hrecord : recordTask app body (threadOf app body scene).2 = (.error fault, after)) :
      Decision app scene (.create request) (.error (.ofFault fault, after))
  /-- The task is recorded, and a run of it begins. -/
  | created {request : Request} {body : RunRequest} {after : Scene σ}
      (hbody : readBody RunRequest.decoder request = .ok body)
      (hrecord : recordTask app body (threadOf app body scene).2 = (.ok (), after)) :
      Decision app scene (.create request)
        (.ok { thread := (threadOf app body scene).1
               run := .start
                 { instruction := body.task, actor := body.actor, watched := body.stream }
               claimed := false, scene := after })
  /-- There is nothing to claim. -/
  | unclaimed {request : Request} {thread : String} {granted : Except RunFault (Option Run)}
      {after : Scene σ} (refusal : Refusal)
      (hclaim : Run.claim app.team thread scene = (granted, after)) :
      Decision app scene (.resume request) (.error (refusal, after))
  /-- A run is claimed. -/
  | resumed {request : Request} {body : ResumeRequest} {run : Run} {after : Scene σ}
      (hbody : readBody ResumeRequest.decoder request = .ok body)
      (hclaim : Run.claim app.team body.thread scene = (.ok (some run), after)) :
      Decision app scene (.resume request)
        (.ok { thread := body.thread, run := run.watch body.stream, claimed := true
               scene := after })

theorem Order.decision (app : App σ) (order : Order) (scene : Scene σ) :
    Decision app scene order (order.undertake app scene) := by
  cases order with
  | create request =>
    simp only [undertake]
    cases hbody : readBody RunRequest.decoder request with
    | error refusal => exact .away refusal
    | ok body =>
      dsimp only
      cases body.problem? with
      | some problem => exact .away _
      | none =>
        rcases hrecord : recordTask app body (threadOf app body scene).2 with ⟨fault | _, after⟩
        · exact .unrecorded hrecord
        · exact .created hbody hrecord
  | resume request =>
    simp only [undertake]
    cases hbody : readBody ResumeRequest.decoder request with
    | error refusal => exact .away refusal
    | ok body =>
      dsimp only
      split
      · exact .away _
      · split
        · exact .away _
        · rcases hclaim : Run.claim app.team body.thread scene with ⟨fault | _ | run, after⟩
          · exact .unclaimed _ hclaim
          · exact .unclaimed _ hclaim
          · exact .resumed hbody hclaim

/-- A new run is set going for a request that makes sense, once its task has been recorded. -/
theorem Order.undertake_create {app : App σ} {scene after : Scene σ} {request : Request}
    {body : RunRequest} (hbody : readBody RunRequest.decoder request = .ok body)
    (hproblem : body.problem? = none)
    (hrecord : recordTask app body (threadOf app body scene).2 = (.ok (), after)) :
    (Order.create request).undertake app scene =
      .ok ⟨(threadOf app body scene).1, .start ⟨body.task, body.actor, body.stream⟩, false,
        after⟩ := by
  simp [undertake, hbody, hproblem, hrecord]

/-- A run that can be claimed is set going for a request that makes sense. -/
theorem Order.undertake_resume {app : App σ} {scene after : Scene σ} {request : Request}
    {body : ResumeRequest} {run : Run}
    (hbody : readBody ResumeRequest.decoder request = .ok body)
    (hblank : Text.isAllBlank body.thread = false) (hvault : app.team.vault.isNone = false)
    (hclaim : Run.claim app.team body.thread scene = (.ok (some run), after)) :
    (Order.resume request).undertake app scene =
      .ok ⟨body.thread, run.watch body.stream, true, after⟩ := by
  simp [undertake, hbody, hblank, hvault, hclaim]

/-- A request to run a task; its client does not follow the progress unless it says so. -/
def runRequest (task actor thread : String) (stream : Bool := false) : Request where
  method := "POST"
  target := "/v1/agent/runs"
  headers := [("content-type", "application/json")]
  body := (Json.obj [("task", .str task), ("actorId", .str actor), ("threadId", .str thread),
    ("stream", .bool stream)]).compact

/-- A request to go on with the run of a thread. -/
def resumeRequest (thread : String) : Request where
  method := "POST"
  target := "/v1/agent/runs/resume"
  headers := [("content-type", "application/json")]
  body := (Json.obj [("threadId", .str thread), ("stream", .bool false)]).compact

/-- Serves requests one after another; the runs that are set going are told in order. -/
def serveAll (app : App σ) : List Order → Scene σ → List (Undertaking σ) × Scene σ
  | [], scene => ([], scene)
  | order :: rest, scene =>
    let (later, last) := serveAll app rest (order.serve app scene).2
    ((order.undertake app scene).toOption.toList ++ later, last)

theorem serveAll_cons_of_undertaken {app : App σ} {order : Order} {scene : Scene σ}
    {undertaking : Undertaking σ} (h : order.undertake app scene = .ok undertaking)
    (rest : List Order) :
    serveAll app (order :: rest) scene =
      (undertaking :: (serveAll app rest (order.serve app scene).2).1,
        (serveAll app rest (order.serve app scene).2).2) := by
  simp [serveAll, h, Except.toOption]

/-! ### Whose runs are kept -/

/-- Whether runs are kept in the store at a place, which may forget, and nothing that requests do
besides puts anything there. -/
structure App.KeepsLossily (app : App σ) (place : σ → Checkpoint.Store) : Prop where
  team : app.team.KeepsLossily place
  freshThread : ∀ outside, (place outside).Forgets (place (app.freshThread outside).2)
  recordTask : ∀ recorder ∈ app.recorder, ∀ actor task outside,
    (place outside).Forgets (place (recorder.recordTask actor task outside).2)
  recordAnswer : ∀ recorder ∈ app.recorder, ∀ actor answer outside,
    (place outside).Forgets (place (recorder.recordAnswer actor answer outside).2)

section Owned

variable {app : App σ} {place : σ → Checkpoint.Store} {owns owns' : String → Task → Prop}
  {scene : Scene σ}

/-- Recording a task puts no run into the store. -/
theorem App.KeepsLossily.recorded (happ : app.KeepsLossily place) {body : RunRequest}
    {outcome : Except Fault Unit} {after : Scene σ}
    (hrecord : Gateway.recordTask app body (threadOf app body scene).2 = (outcome, after))
    (hstore : (place scene.outside).Owned owns) : (place after.outside).Owned owns := by
  have hthread : (place (threadOf app body scene).2.outside).Owned owns := by
    unfold threadOf
    cases body.thread with
    | some thread => exact hstore
    | none => exact hstore.forget (happ.freshThread scene.outside)
  unfold Gateway.recordTask at hrecord
  cases hrecorder : app.recorder with
  | none =>
    simp only [hrecorder] at hrecord
    cases hrecord
    exact hthread
  | some recorder =>
    simp only [hrecorder] at hrecord
    cases hrecord
    exact hthread.forget (happ.recordTask recorder hrecorder _ _ _)

theorem App.KeepsLossily.recordsAnswer (happ : app.KeepsLossily place)
    (outcome : Except RunFault Run) (hstore : (place scene.outside).Owned owns) :
    (place (Gateway.recordAnswer app outcome scene).outside).Owned owns := by
  unfold Gateway.recordAnswer
  split
  · next recorder run hrecorder =>
    split
    · exact hstore.forget (happ.recordAnswer recorder hrecorder _ _ _)
    · exact hstore
  · exact hstore

/-- Where the run of an undertaking comes from: it is new, or it was kept for its thread. -/
inductive Undertaking.Origin (owns : String → Task → Prop) : Undertaking σ → Prop
  | new (thread : String) (task : Task) (scene : Scene σ) :
      Origin owns { thread, run := .start task, claimed := false, scene }
  | kept (thread : String) (watched : Bool) (scene : Scene σ) {left : Run}
      (hkeepable : left.Keepable) (howns : owns thread left.task) :
      Origin owns { thread, run := left.watch watched, claimed := true, scene }

/-- A request that is refused puts no run into the store. -/
theorem Order.owned_of_refused (happ : app.KeepsLossily place)
    (hstore : (place scene.outside).Owned owns) {order : Order} {refusal : Refusal}
    {after : Scene σ} (hrefused : order.undertake app scene = .error (refusal, after)) :
    (place after.outside).Owned owns := by
  have hdecision := order.decision app scene
  rw [hrefused] at hdecision
  cases hdecision with
  | away => exact hstore
  | unrecorded hrecord => exact happ.recorded hrecord hstore
  | @unclaimed _ thread _ _ _ hclaim =>
    have hafter := (happ.team.claim thread hstore).1
    rwa [hclaim] at hafter

/-- Nor does the acceptance of a request; the run is new, or it was kept for its thread. -/
theorem Order.owned_of_undertaken (happ : app.KeepsLossily place)
    (hstore : (place scene.outside).Owned owns) {order : Order} {undertaking : Undertaking σ}
    (hundertaken : order.undertake app scene = .ok undertaking) :
    (place undertaking.scene.outside).Owned owns ∧ undertaking.Origin owns := by
  have hdecision := order.decision app scene
  rw [hundertaken] at hdecision
  cases hdecision with
  | created _ hrecord => exact ⟨happ.recorded hrecord hstore, .new _ _ _⟩
  | @resumed _ body _ after _ hclaim =>
    have hafter := happ.team.claim body.thread hstore
    rw [hclaim] at hafter
    obtain ⟨left, rfl, hkeepable, howns⟩ := hafter.2 _ rfl
    exact ⟨hafter.1,
      @Undertaking.Origin.kept _ _ body.thread body.stream after left hkeepable howns⟩

end Owned

end Errand.Gateway
