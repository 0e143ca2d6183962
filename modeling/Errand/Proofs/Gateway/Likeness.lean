import Errand.Proofs.Gateway.Flag
import Errand.Proofs.Gateway.Undertaking
import Errand.Proofs.Run.Likeness

/-!
# Services that behave alike

Two services behave alike if their collaborators do (`App.Alike`). Requests for a run that differ in
the flag at most are then undertaken in the same way: both are refused, for the same reason, or a
run is set going for both, which differs in who watches (`undertake_alike`). The runs come to the
same end, and the states outside are related again (`serve_alike`). This holds of any requests that
are handled one after another (`handleAll_alike`), since no other request has a flag.
-/

set_option autoImplicit false

namespace Errand

variable {σ τ : Type} {R : σ → τ → Prop}

/-! ### Messages -/

namespace Messaging

/-- Whether two messaging services behave alike. -/
structure Repository.Alike (R : σ → τ → Prop) (repository : Repository σ)
    (repository' : Repository τ) : Prop where
  findUser : ∀ id, (repository.findUser id).Alike R (repository'.findUser id)
  searchUsers : ∀ name, (repository.searchUsers name).Alike R (repository'.searchUsers name)
  createConversation : ∀ participants,
    (repository.createConversation participants).Alike R
      (repository'.createConversation participants)
  findConversation : ∀ id,
    (repository.findConversation id).Alike R (repository'.findConversation id)
  findConversationOf : ∀ participants,
    (repository.findConversationOf participants).Alike R
      (repository'.findConversationOf participants)
  conversationsOf : ∀ user,
    (repository.conversationsOf user).Alike R (repository'.conversationsOf user)
  createMessage : ∀ draft,
    (repository.createMessage draft).Alike R (repository'.createMessage draft)
  listMessages : ∀ filter page,
    (repository.listMessages filter page).Alike R (repository'.listMessages filter page)
  countMessages : ∀ filter,
    (repository.countMessages filter).Alike R (repository'.countMessages filter)

/-- Whether two recorders behave alike. -/
structure Recorder.Alike (R : σ → τ → Prop) (recorder : Recorder σ) (recorder' : Recorder τ) :
    Prop where
  repository : recorder.repository.Alike R recorder'.repository
  assistant : recorder'.assistant = recorder.assistant

/-- Whether two suggesters of replies behave alike. -/
structure SmartReplies.Alike (R : σ → τ → Prop) (replies : SmartReplies σ)
    (replies' : SmartReplies τ) : Prop where
  repository : replies.repository.Alike R replies'.repository
  suggest : ∀ lines, (replies.suggest lines).Alike R (replies'.suggest lines)
  window : replies'.window = replies.window
  now : ∀ ⦃outside outside'⦄, R outside outside' → replies'.now outside' = replies.now outside

namespace Recorder.Alike

variable {recorder : Recorder σ} {recorder' : Recorder τ}

theorem conversationWith (h : recorder.Alike R recorder') (actor : String) :
    (recorder.conversationWith actor).Alike R (recorder'.conversationWith actor) := by
  unfold Recorder.conversationWith
  rw [h.assistant]
  refine (h.repository.findConversationOf _).bind fun found ↦ ?_
  cases found with
  | none => exact h.repository.createConversation _
  | some conversation => exact .answer _

theorem recordTask (h : recorder.Alike R recorder') (actor task : String) :
    (recorder.recordTask actor task).Alike R (recorder'.recordTask actor task) := by
  unfold Recorder.recordTask
  rw [h.assistant]
  exact (h.conversationWith actor).bind fun conversation ↦
    (h.repository.createMessage _).bind fun _ ↦ .answer _

theorem recordAnswer (h : recorder.Alike R recorder') (actor answer : String) :
    (recorder.recordAnswer actor answer).Alike R (recorder'.recordAnswer actor answer) := by
  unfold Recorder.recordAnswer
  rw [h.assistant]
  split
  · exact .answer _
  · exact (h.conversationWith actor).bind fun conversation ↦
      (h.repository.createMessage _).bind fun _ ↦ .answer _

end Recorder.Alike

theorem SmartReplies.Alike.forConversation {replies : SmartReplies σ} {replies' : SmartReplies τ}
    (h : replies.Alike R replies') (conversation : String) :
    (replies.forConversation conversation).Alike R (replies'.forConversation conversation) := by
  have hnow : Consult.Alike R
      (.modify fun outside ↦ (.ok (replies.now outside), outside))
      (.modify fun outside ↦ (.ok (replies'.now outside), outside)) :=
    fun outside outside' hR ↦ ⟨congrArg Except.ok (h.now hR).symm, hR⟩
  unfold SmartReplies.forConversation SmartReplies.recentLines
  rw [h.window]
  refine (h.repository.findConversation _).bind fun found ↦ ?_
  cases found with
  | none => exact .answer _
  | some _ =>
    dsimp only
    split
    · exact .answer _
    · refine hnow.bind fun now ↦ ?_
      cases now.before? replies.window with
      | none => exact .answer _
      | some since =>
        exact ((h.repository.listMessages _ _).bind fun _ ↦ .answer _).bind fun lines ↦
          (h.suggest lines).bind fun _ ↦ .answer _

end Messaging

namespace Gateway

/-- Whether two services behave alike, whoever watches. -/
structure App.Alike (R : σ → τ → Prop) (app : App σ) (app' : App τ) : Prop where
  team : app.team.Alike R app'.team
  recorder : Option.Rel (Messaging.Recorder.Alike R) app.recorder app'.recorder
  smartReplies : Option.Rel (Messaging.SmartReplies.Alike R) app.smartReplies app'.smartReplies
  freshThread : ∀ ⦃outside outside'⦄, R outside outside' →
    (app.freshThread outside).1 = (app'.freshThread outside').1 ∧
      R (app.freshThread outside).2 (app'.freshThread outside').2

section Serve

variable {app : App σ} {app' : App τ} {scene : Scene σ} {scene' : Scene τ} {b b' : Bool}

/-! ### What is done for a run -/

theorem App.Alike.threadOf (happ : app.Alike R app') (body body' : RunRequest)
    (hthread : body'.thread = body.thread) (hR : R scene.outside scene'.outside) :
    (threadOf app body scene).1 = (Gateway.threadOf app' body' scene').1 ∧
      R (Gateway.threadOf app body scene).2.outside
        (Gateway.threadOf app' body' scene').2.outside := by
  unfold Gateway.threadOf
  rw [hthread]
  cases body.thread with
  | some thread => exact ⟨rfl, hR⟩
  | none => exact happ.freshThread hR

theorem App.Alike.recordTask (happ : app.Alike R app') (body body' : RunRequest)
    (htask : body'.task = body.task) (hactor : body'.actor = body.actor)
    (hR : R scene.outside scene'.outside) :
    (recordTask app body scene).1 = (Gateway.recordTask app' body' scene').1 ∧
      R (Gateway.recordTask app body scene).2.outside
        (Gateway.recordTask app' body' scene').2.outside := by
  have hrecorder := happ.recorder
  unfold Gateway.recordTask
  rw [htask, hactor]
  generalize app.recorder = recorder, app'.recorder = recorder' at hrecorder ⊢
  cases hrecorder with
  | none => exact ⟨rfl, hR⟩
  | some h =>
    obtain ⟨houtcome, hafter⟩ := h.recordTask body.actor body.task hR
    exact ⟨congrArg (·.map fun _ ↦ ()) houtcome, hafter⟩

theorem App.Alike.recordAnswer (happ : app.Alike R app') (outcome : Except RunFault Run)
    (watched : Bool) (hR : R scene.outside scene'.outside) :
    R (recordAnswer app outcome scene).outside
      (Gateway.recordAnswer app' (outcome.map (·.watch watched)) scene').outside := by
  have hrecorder := happ.recorder
  unfold Gateway.recordAnswer
  generalize app.recorder = recorder, app'.recorder = recorder' at hrecorder ⊢
  cases hrecorder with
  | none => exact hR
  | some h =>
    cases outcome with
    | error fault => exact hR
    | ok run =>
      have hanswer : (run.watch watched).answer = run.answer := rfl
      simp only [Except.map, hanswer]
      cases run.answer with
      | none => exact hR
      | some answer => exact (h.recordAnswer run.task.actor answer hR).2

theorem App.Alike.claim (happ : app.Alike R app') (thread : String)
    (hR : R scene.outside scene'.outside) :
    (Run.claim app.team thread scene).1 = (Run.claim app'.team thread scene').1 ∧
      R (Run.claim app.team thread scene).2.outside
        (Run.claim app'.team thread scene').2.outside := by
  have hvault := happ.team.vault
  unfold Run.claim
  generalize app.team.vault = vault, app'.team.vault = vault' at hvault ⊢
  cases hvault with
  | none => exact ⟨rfl, hR⟩
  | some h =>
    obtain ⟨houtcome, hafter⟩ := h.claim thread hR
    exact ⟨congrArg (Except.mapError RunFault.checkpoint) houtcome, hafter⟩

/-! ### What is undertaken -/

/-- Whether two requests for a run are read alike, except for the flag. -/
inductive Order.Abreast (b b' : Bool) : Order → Order → Prop
  | create {request request' : Request}
      (hbody : Json.Abreast RunRequest.IsMade b b' (readBody RunRequest.decoder request)
        (readBody RunRequest.decoder request')) :
      Abreast b b' (.create request) (.create request')
  | resume {request request' : Request}
      (hbody : Json.Abreast ResumeRequest.IsMade b b' (readBody ResumeRequest.decoder request)
        (readBody ResumeRequest.decoder request')) :
      Abreast b b' (.resume request) (.resume request')

/-- Whether the same is undertaken in related scenes, except for who watches. -/
inductive Undertaking.Abreast (R : σ → τ → Prop) (b b' : Bool) :
    Except (Refusal × Scene σ) (Undertaking σ) → Except (Refusal × Scene τ) (Undertaking τ) → Prop
  | refused (refusal : Refusal) {scene : Scene σ} {scene' : Scene τ}
      (hR : R scene.outside scene'.outside) :
      Abreast R b b' (.error (refusal, scene)) (.error (refusal, scene'))
  | going (thread : String) (run : Run) (claimed : Bool) {scene : Scene σ} {scene' : Scene τ}
      (hR : R scene.outside scene'.outside) :
      Abreast R b b' (.ok ⟨thread, run.watch b, claimed, scene⟩)
        (.ok ⟨thread, run.watch b', claimed, scene'⟩)

/-- What is set going for the body of a request to run a task, or the refusal. -/
def RunRequest.undertake (app : App σ) (body : RunRequest) (scene : Scene σ) :
    Except (Refusal × Scene σ) (Undertaking σ) :=
  match body.problem? with
  | some problem => .error (.badRequest problem, scene)
  | none =>
    let (thread, scene) := threadOf app body scene
    match Gateway.recordTask app body scene with
    | (.error fault, scene) => .error (.ofFault fault, scene)
    | (.ok _, scene) =>
      .ok ⟨thread, .start ⟨body.task, body.actor, body.stream⟩, false, scene⟩

/-- What is set going for the body of a request to go on with a run, or the refusal. -/
def ResumeRequest.undertake (app : App σ) (body : ResumeRequest) (scene : Scene σ) :
    Except (Refusal × Scene σ) (Undertaking σ) :=
  if Text.isAllBlank body.thread then
    .error (.badRequest "threadId cannot be empty", scene)
  else if app.team.vault.isNone then
    .error (.notFound "Checkpointing is disabled", scene)
  else
    match Run.claim app.team body.thread scene with
    | (.error fault, scene) => .error (.ofRunFault fault, scene)
    | (.ok none, scene) =>
      .error (.notFound ("No checkpoint for thread '" ++ body.thread ++ "'"), scene)
    | (.ok (some run), scene) => .ok ⟨body.thread, run.watch body.stream, true, scene⟩

theorem Order.undertake_create_eq (app : App σ) (request : Request) (scene : Scene σ) :
    (Order.create request).undertake app scene =
      match readBody RunRequest.decoder request with
      | .error refusal => .error (refusal, scene)
      | .ok body => body.undertake app scene := rfl

theorem Order.undertake_resume_eq (app : App σ) (request : Request) (scene : Scene σ) :
    (Order.resume request).undertake app scene =
      match readBody ResumeRequest.decoder request with
      | .error refusal => .error (refusal, scene)
      | .ok body => body.undertake app scene := rfl

/-- A new run for two bodies. -/
theorem RunRequest.undertake_alike (happ : app.Alike R app') (task actor : String)
    (thread : Option String) (hR : R scene.outside scene'.outside) :
    Undertaking.Abreast R b b' (undertake app ⟨task, actor, thread, b⟩ scene)
      (undertake app' ⟨task, actor, thread, b'⟩ scene') := by
  let body (b : Bool) : RunRequest := ⟨task, actor, thread, b⟩
  have hproblem : (body b').problem? = (body b).problem? := rfl
  obtain ⟨hthread, hminted⟩ := happ.threadOf (body b) (body b') rfl hR
  obtain ⟨hrecord, hafter⟩ := happ.recordTask (body b) (body b') rfl rfl hminted
  simp only [undertake]
  rw [hproblem]
  cases (body b).problem? with
  | some problem => exact .refused _ hR
  | none =>
    dsimp only
    rw [← hthread]
    rcases hthis : Gateway.recordTask app (body b) (threadOf app (body b) scene).2 with
      ⟨recorded, after⟩
    rcases hthat : Gateway.recordTask app' (body b') (threadOf app' (body b') scene').2 with
      ⟨recorded', after'⟩
    rw [hthis, hthat] at hrecord hafter
    obtain rfl : recorded = recorded' := hrecord
    cases recorded with
    | error fault => exact .refused _ hafter
    | ok _ => exact .going _ (.start ⟨task, actor, b⟩) false hafter

/-- A run that is claimed for two bodies. -/
theorem ResumeRequest.undertake_alike (happ : app.Alike R app') (thread : String)
    (hR : R scene.outside scene'.outside) :
    Undertaking.Abreast R b b' (undertake app ⟨thread, b⟩ scene)
      (undertake app' ⟨thread, b'⟩ scene') := by
  have hvault : app'.team.vault.isNone = app.team.vault.isNone := by
    have hvault := happ.team.vault
    generalize app.team.vault = vault, app'.team.vault = vault' at hvault ⊢
    cases hvault <;> rfl
  obtain ⟨hgranted, hafter⟩ := happ.claim thread hR
  simp only [undertake, hvault]
  split
  · exact .refused _ hR
  · split
    · exact .refused _ hR
    · rcases hthis : Run.claim app.team thread scene with ⟨granted, after⟩
      rcases hthat : Run.claim app'.team thread scene' with ⟨granted', after'⟩
      rw [hthis, hthat] at hgranted hafter
      obtain rfl : granted = granted' := hgranted
      cases granted with
      | error fault => exact .refused _ hafter
      | ok claimed =>
        cases claimed with
        | none => exact .refused _ hafter
        | some run => exact .going thread run true hafter

/-- The same is undertaken for two requests, except for who watches. -/
theorem undertake_alike (happ : app.Alike R app') {order order' : Order}
    (horder : order.Abreast b b' order') (hR : R scene.outside scene'.outside) :
    Undertaking.Abreast R b b' (order.undertake app scene) (order'.undertake app' scene') := by
  cases horder with
  | @create request request' hbody =>
    rw [Order.undertake_create_eq, Order.undertake_create_eq]
    generalize readBody RunRequest.decoder request = read,
      readBody RunRequest.decoder request' = read' at hbody ⊢
    cases hbody with
    | fault refusal => exact .refused refusal hR
    | value hshape =>
      obtain ⟨task, actor, thread, rfl⟩ := hshape
      exact RunRequest.undertake_alike happ task actor thread hR
  | @resume request request' hbody =>
    rw [Order.undertake_resume_eq, Order.undertake_resume_eq]
    generalize readBody ResumeRequest.decoder request = read,
      readBody ResumeRequest.decoder request' = read' at hbody ⊢
    cases hbody with
    | fault refusal => exact .refused refusal hR
    | value hshape =>
      obtain ⟨thread, rfl⟩ := hshape
      exact ResumeRequest.undertake_alike happ thread hR

/-! ### How runs end -/

/-- How the run ends that is set going for a request, and its thread; or the refusal. -/
def Order.ending (app : App σ) (order : Order) (scene : Scene σ) :
    Except Refusal (String × Except RunFault Run) :=
  match order.undertake app scene with
  | .error (refusal, _) => .error refusal
  | .ok undertaking => .ok (undertaking.thread, (undertaking.drive app).1)

/-- Runs that differ in who watches come to the same end. -/
theorem drive_alike (happ : app.Alike R app') (thread : String) (run : Run)
    (claimed b b' : Bool) (hR : R scene.outside scene'.outside) :
    let undertaking : Undertaking σ := ⟨thread, run.watch b, claimed, scene⟩
    let undertaking' : Undertaking τ := ⟨thread, run.watch b', claimed, scene'⟩
    (undertaking'.drive app').1 = (undertaking.drive app).1.map (·.watch b') ∧
      R (undertaking.drive app).2.outside (undertaking'.drive app').2.outside := by
  intro undertaking undertaking'
  obtain ⟨after, hdrives, hafter⟩ := (undertaking.drives app).alike happ.team b' hR
  obtain ⟨houtcome, houtside⟩ := (undertaking'.drives app').unique hdrives
  exact ⟨houtcome, houtside ▸ hafter⟩

/-- Two requests for a run come to the same end, except for who watches. -/
theorem serve_alike (happ : app.Alike R app') {order order' : Order}
    (horder : order.Abreast b b' order') (hR : R scene.outside scene'.outside) :
    R (order.serve app scene).2.outside (order'.serve app' scene').2.outside ∧
      order'.ending app' scene' = (order.ending app scene).map fun (thread, outcome) ↦
        (thread, outcome.map (·.watch b')) := by
  have hundertaken := undertake_alike happ horder hR
  rw [order.serve_eq, order'.serve_eq]
  unfold Order.ending
  generalize order.undertake app scene = undertaken,
    order'.undertake app' scene' = undertaken' at hundertaken ⊢
  cases hundertaken with
  | refused refusal hafter => exact ⟨hafter, rfl⟩
  | going thread run claimed hafter =>
    obtain ⟨houtcome, hlast⟩ := drive_alike happ thread run claimed b b' hafter
    refine ⟨?_, congrArg (fun outcome ↦ Except.ok (thread, outcome)) houtcome⟩
    simp only [Undertaking.finish, houtcome]
    exact happ.recordAnswer _ b' hlast

/-! ### Requests one after another -/

theorem Order.Abreast.refl (order : Order) : ∃ b, order.Abreast b b order := by
  cases order with
  | create request =>
    cases hread : readBody RunRequest.decoder request with
    | error refusal => exact ⟨false, .create (by rw [hread]; exact .fault refusal)⟩
    | ok body =>
      refine ⟨body.stream, .create ?_⟩
      rw [hread]
      have hmade : RunRequest.IsMade (.mk body.task body.actor body.thread) := ⟨_, _, _, rfl⟩
      exact .value hmade
  | resume request =>
    cases hread : readBody ResumeRequest.decoder request with
    | error refusal => exact ⟨false, .resume (by rw [hread]; exact .fault refusal)⟩
    | ok body =>
      refine ⟨body.stream, .resume ?_⟩
      rw [hread]
      have hmade : ResumeRequest.IsMade (.mk body.thread) := ⟨_, rfl⟩
      exact .value hmade

/-- Whether two requests are the same, or are made for a run and differ in the flag only. -/
inductive Request.Alike : Request → Request → Prop
  | same (request : Request) : Alike request request
  | create {request request' : Request} (b b' : Bool)
      (hroute : Route.all.lookup request.path = some .createRun)
      (hflips : request.Flips 3 b b' request') : Alike request request'
  | resume {request request' : Request} (b b' : Bool)
      (hroute : Route.all.lookup request.path = some .resumeRun)
      (hflips : request.Flips 1 b b' request') : Alike request request'

/-- Handles requests one after another; each of them comes with the id that it is given if it has
none. -/
def handleAll (app : App σ) : List (String × Request) → Scene σ → Scene σ
  | [], scene => scene
  | (id, request) :: rest, scene => handleAll app rest (handle app id request scene).2

theorem outside_handle (app : App σ) (id : String) (request : Request) (scene : Scene σ) :
    (handle app id request scene).2.outside =
      if !request.isSendable || request.method = "OPTIONS" then scene.outside
      else (route app request scene).2.outside := by
  unfold handle
  by_cases hsendable : request.isSendable
  · by_cases hmethod : request.method = "OPTIONS"
    · simp [hsendable, hmethod]
    · rcases hroute : route app request scene with ⟨_ | response, after⟩ <;>
        simp [hsendable, hmethod, Scene.report]
  · simp [hsendable]

theorem outside_route (app : App σ) (request : Request) (scene : Scene σ) :
    (route app request scene).2.outside =
      match Route.all.lookup request.path with
      | none => scene.outside
      | some route =>
        if route.takes request.method then (route.serve app request scene).2.outside
        else scene.outside := by
  unfold Gateway.route
  cases Route.all.lookup request.path with
  | none => rfl
  | some route =>
    dsimp only
    split
    · split <;> rfl
    · rfl

theorem outside_ready (app : App σ) (scene : Scene σ) :
    (ready app scene).2.outside =
      match app.team.vault with
      | none => scene.outside
      | some vault => (vault.load readinessThread scene.outside).2 := by
  unfold ready checkVault
  cases app.team.vault with
  | none => rfl
  | some vault =>
    rcases hload : scene.consult false (vault.load readinessThread) with ⟨_ | _, after⟩ <;>
      dsimp only <;> rw [hload] <;> exact (congrArg (fun pair ↦ pair.2.outside) hload).symm

theorem outside_suggestReplies (app : App σ) (request : Request) (scene : Scene σ) :
    (suggestReplies app request scene).2.outside =
      match readBody smartRepliesDecoder request, app.smartReplies with
      | .ok conversation, some replies =>
        if Text.isAllBlank conversation then scene.outside
        else (replies.forConversation conversation scene.outside).2
      | _, _ => scene.outside := by
  unfold suggestReplies
  cases readBody smartRepliesDecoder request with
  | error refusal => rfl
  | ok conversation =>
    cases app.smartReplies with
    | none => dsimp only; split <;> rfl
    | some replies =>
      dsimp only
      split
      · rfl
      · rcases hconsult : scene.consult false (replies.forConversation conversation) with
          ⟨_ | _ | _, after⟩ <;>
          exact (congrArg (fun pair ↦ pair.2.outside) hconsult).symm

/-- The same request on any route. -/
theorem Route.serve_alike (happ : app.Alike R app') (route : Route) (request : Request)
    (hR : R scene.outside scene'.outside) :
    R (route.serve app request scene).2.outside (route.serve app' request scene').2.outside := by
  cases route with
  | health | live | operations => exact hR
  | ready =>
    have hvault := happ.team.vault
    change R (Gateway.ready app scene).2.outside (Gateway.ready app' scene').2.outside
    rw [outside_ready, outside_ready]
    generalize app.team.vault = vault, app'.team.vault = vault' at hvault ⊢
    cases hvault with
    | none => exact hR
    | some h => exact (h.load readinessThread hR).2
  | createRun =>
    obtain ⟨b, horder⟩ := Order.Abreast.refl (.create request)
    exact (Gateway.serve_alike happ horder hR).1
  | resumeRun =>
    obtain ⟨b, horder⟩ := Order.Abreast.refl (.resume request)
    exact (Gateway.serve_alike happ horder hR).1
  | smartReplies =>
    have hreplies := happ.smartReplies
    change R (suggestReplies app request scene).2.outside
      (suggestReplies app' request scene').2.outside
    rw [outside_suggestReplies, outside_suggestReplies]
    generalize app.smartReplies = replies, app'.smartReplies = replies' at hreplies ⊢
    cases readBody smartRepliesDecoder request with
    | error refusal => cases hreplies <;> exact hR
    | ok conversation =>
      cases hreplies with
      | none => exact hR
      | some h =>
        dsimp only
        split
        · exact hR
        · exact (h.forConversation conversation hR).2

theorem Request.Alike.beside {request request' : Request} (h : request.Alike request') :
    request' = { request with body := request'.body } := by
  cases h with
  | same => rfl
  | create b b' _ hflips => exact hflips.beside
  | resume b b' _ hflips => exact hflips.beside

/-- Two requests that differ in the flag at most, on their route. -/
theorem Request.Alike.serve (happ : app.Alike R app') {request request' : Request}
    (h : request.Alike request') {route : Route}
    (hroute : Route.all.lookup request.path = some route) (hR : R scene.outside scene'.outside) :
    R (route.serve app request scene).2.outside (route.serve app' request' scene').2.outside := by
  cases h with
  | same => exact route.serve_alike happ request hR
  | create b b' hcreate hflips =>
    obtain rfl : route = .createRun := Option.some.inj (hroute.symm.trans hcreate)
    exact (serve_alike happ (.create (RunRequest.readBody_flips hflips)) hR).1
  | resume b b' hresume hflips =>
    obtain rfl : route = .resumeRun := Option.some.inj (hroute.symm.trans hresume)
    exact (serve_alike happ (.resume (ResumeRequest.readBody_flips hflips)) hR).1

/-- Two requests that differ in the flag at most are handled alike. -/
theorem handle_alike (happ : app.Alike R app') (id : String) {request request' : Request}
    (h : request.Alike request') (hR : R scene.outside scene'.outside) :
    R (handle app id request scene).2.outside (handle app' id request' scene').2.outside := by
  have hsendable : request'.isSendable = request.isSendable := by rw [h.beside]; rfl
  have hmethod : request'.method = request.method := by rw [h.beside]
  have hpath : request'.path = request.path := by rw [h.beside]; rfl
  rw [outside_handle, outside_handle, outside_route, outside_route, hsendable, hmethod, hpath]
  split
  · exact hR
  · cases hroute : Route.all.lookup request.path with
    | none => exact hR
    | some route =>
      dsimp only
      split
      · exact h.serve happ hroute hR
      · exact hR

/-- Whether requests that are handled one after another differ in flags at most. -/
def VisitsAlike : List (String × Request) → List (String × Request) → Prop :=
  List.Forall₂ fun visit visit' ↦ visit.1 = visit'.1 ∧ visit.2.Alike visit'.2

theorem VisitsAlike.refl (visits : List (String × Request)) : VisitsAlike visits visits :=
  List.forall₂_same.mpr fun visit _ ↦ ⟨rfl, .same visit.2⟩

theorem handleAll_alike (happ : app.Alike R app') {visits visits' : List (String × Request)}
    (hvisits : VisitsAlike visits visits') (hR : R scene.outside scene'.outside) :
    R (handleAll app visits scene).outside (handleAll app' visits' scene').outside := by
  induction hvisits generalizing scene scene' with
  | nil => exact hR
  | @cons visit visit' rest rest' hvisit _ ih =>
    obtain ⟨id, request⟩ := visit
    obtain ⟨id', request'⟩ := visit'
    obtain ⟨rfl, hrequest⟩ : id = id' ∧ request.Alike request' := hvisit
    exact ih (handle_alike happ id hrequest hR)

end Serve

end Gateway

end Errand
