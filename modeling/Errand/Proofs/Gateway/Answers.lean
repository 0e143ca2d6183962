import Errand.Proofs.Gateway.Client
import Errand.Proofs.Gateway.Succession
import Errand.Proofs.Run.Ending
import Errand.Proofs.Service.Runs

/-!
# What becomes of an answer

The answer of a run takes three ways: it is said token by token while the run is driven, it is told
in the last frames of the response, and it is recorded as a message. `stream_tells_answer` says that
the three agree for every request that is followed to its answer, after any requests before it, also
where an earlier attempt at the same run broke off in the middle of its answer: what was said then
belongs to another response, and a run that is resumed has still to ask its solver
(`stage_of_undertaken`).
-/

set_option autoImplicit false

namespace Errand.Gateway

open Messaging (Household Message)

variable {σ : Type} {app : App σ} {order : Order} {undertaking : Undertaking σ} {scene : Scene σ}
  {run : Run}

/-! ### One request -/

/-- A run that is set going has still to ask its solver, if no run that is done can be claimed. -/
theorem stage_of_undertaken
    (hclaims : ∀ thread claimed, (Run.claim app.team thread scene).1 = .ok (some claimed) →
      claimed.stage ≠ .done)
    (h : order.undertake app scene = .ok undertaking) : undertaking.run.stage ≠ .done := by
  have hdecision := order.decision app scene
  rw [h] at hdecision
  cases hdecision with
  | created => simp [Run.start]
  | @resumed _ body run after _ hclaim => exact hclaims body.thread run (by rw [hclaim])

/-- A run that is followed to its answer says it. -/
theorem Undertaking.says_answer (hteam : app.team.SpeaksAnswers)
    (hgoes : undertaking.run.stage ≠ .done) (hwatched : undertaking.run.task.watched = true)
    (hfinal : (undertaking.drive app).1 = .ok run) :
    ∃ answer, run.answer = some answer ∧
      Event.spoken (undertaking.drive app).2.events = answer := by
  have htravels := @Journey.travels_complete _ app.team undertaking.thread undertaking.claimed
    undertaking.run { undertaking.scene with events := [] }
  obtain ⟨answer, shown, hanswer, hevents, hsays⟩ :=
    htravels.says_answer hteam hgoes hwatched hfinal
  refine ⟨answer, hanswer, ?_⟩
  rw [Undertaking.drive, hevents]
  exact hsays

/-- The response to a request that is followed to its answer. -/
theorem Undertaking.body_finish (hwatched : undertaking.run.task.watched = true)
    (hfinal : (undertaking.drive app).1 = .ok run) :
    (undertaking.finish app).1.body =
      eventStream undertaking.thread (undertaking.drive app).2.events
        (.ok (run.answer.getD "")) := by
  simp only [Undertaking.finish, present, hwatched, hfinal]
  rfl

/-! ### Requests one after another -/

/-- After any requests, no run that is done is kept. -/
theorem stage_after_requests {settings : Settings} {around : Service.Surroundings σ}
    {house : Household σ} {place : σ → Checkpoint.Store} {now : Time.Instant}
    {readFile : String → Except String String} {seed : Messaging.Seed}
    (hassemble : Service.assemble settings around now readFile = .ok (app, seed))
    (hrepository : around.repository = .ofStore house) (hkeeps : around.KeepsLossily place)
    (haside : house.Aside place) (hbrief : app.team.Brief)
    (hempty : (place scene.outside).kept = []) (orders : List Order)
    (h : order.undertake app (serveAll app orders scene).2 = .ok undertaking) :
    undertaking.run.stage ≠ .done := by
  refine stage_of_undertaken (fun thread claimed hclaim ↦ ?_) h
  cases hcheckpoints : settings.agent.checkpoints with
  | false =>
    have hnone : app.team.vault = none := by
      obtain ⟨provider, registry, rfl, -⟩ := Service.app_of_assemble hassemble
      simp [Service.app, Service.limits, hcheckpoints]
    simp [Run.claim, hnone] at hclaim
  | true =>
    have happ := Service.keepsLossily_of_assemble hkeeps haside hrepository hcheckpoints hassemble
    have hbegin : (place scene.outside).Owned (IsLatest app []) := .of_kept_nil hempty
    have hstore := owned_serveAll happ hbrief orders hbegin
    obtain ⟨left, rfl, hkeepable, -⟩ := (happ.team.claim thread hstore).2 claimed hclaim
    rcases hkeepable.stage with hstage | hstage <;> simp [Run.watch, hstage]

/-- A service answers through a language model and has served any requests before, for any threads
and with any outcomes. If a request is then followed to the end of its run, the run has an answer; a
client who reads the response finds tokens that make up this answer, and one frame that tells it;
and if exchanges are recorded and the answer is not blank, the last message in the store is this
answer, from the assistant to the actor of the run. -/
theorem stream_tells_answer {settings : Settings} {around : Service.Surroundings σ}
    {house : Household σ} {place : σ → Checkpoint.Store} {now : Time.Instant}
    {readFile : String → Except String String} {seed : Messaging.Seed}
    (hassemble : Service.assemble settings around now readFile = .ok (app, seed))
    (hsilent : around.transport.Silent) (hsends : around.SendsIn house)
    (hkeeps : around.KeepsLossily place) (haside : house.Aside place) (hbrief : app.team.Brief)
    (htidy : house.Tidy scene.outside) (hempty : (place scene.outside).kept = [])
    (orders : List Order) (order : Order)
    (hundertaken : order.undertake app (serveAll app orders scene).2 = .ok undertaking)
    (hwatched : undertaking.run.task.watched = true)
    (hfinal : (undertaking.drive app).1 = .ok run) :
    let served := order.serve app (serveAll app orders scene).2
    let frames := Frame.readAll served.1.body
    ∃ answer, run.answer = some answer ∧
      String.join (frames.filterMap Frame.token?) = answer ∧
      frames.filterMap Frame.answer? = [answer] ∧
      (settings.agent.recordExchanges = true → Text.isAllBlank answer = false →
        ∃ before message, (house.store served.2.outside).messages = before ++ [message] ∧
          message.Holds settings.agent.assistant run.task.actor answer) := by
  intro served frames
  have happ := App.sendsIn_of_assemble hsends hassemble
  have hteam := Service.speaksAnswers_of_assemble hsilent hsends.repository hassemble
  have hgoes := stage_after_requests hassemble hsends.repository hkeeps haside hbrief hempty orders
    hundertaken
  obtain ⟨answer, hanswer, hsays⟩ := undertaking.says_answer hteam hgoes hwatched hfinal
  have hserved : served = undertaking.finish app := by
    simp only [served]
    rw [order.serve_eq, hundertaken]
  have hbody := undertaking.body_finish hwatched hfinal
  rw [hanswer, Option.getD_some] at hbody
  obtain ⟨htokens, hanswers⟩ :=
    reads_answer undertaking.thread (undertaking.drive app).2.events answer
  rw [← hbody, ← hserved] at htokens hanswers
  refine ⟨answer, hanswer, ?_, hanswers, fun hrecord hblank ↦ ?_⟩
  · rw [htokens]
    exact hsays
  · obtain ⟨_, hhistory⟩ := happ.grows_serveAll htidy orders
    obtain ⟨-, _, hbefore, -⟩ := happ.undertaken hhistory.tidy hundertaken
    obtain ⟨sent, answered, hafter, -, hanswered⟩ := happ.finish hbefore.tidy
    have hrecorder : app.recorder.isSome := by
      obtain ⟨provider, registry, rfl, -⟩ := Service.app_of_assemble hassemble
      simp [Service.app, hrecord]
    have htold : answerOf (undertaking.drive app).1 = some answer := by
      simp [answerOf, hfinal, hanswer, hblank, Option.filter]
    rw [App.Records, if_pos hrecorder, htold, Option.toList_some] at hanswered
    cases hanswered with
    | @cons _ message _ _ hholds hnil =>
      cases hnil
      refine ⟨(house.store undertaking.scene.outside).messages ++ sent, message, ?_, ?_⟩
      · rw [hserved, hafter.messages, List.append_assoc]
      · rwa [(undertaking.drives app).task run hfinal]

/-! ### A model that always says the same -/

/-- The answer of a chat service that holds a text. -/
def chatAnswer (text : String) : Json :=
  .obj [("model", .str "m"), ("choices", .arr [.obj [("message", .obj [("content", .str text)])]])]

/-- A service is willing if its language model always says the same and that can be read as a
plan. -/
theorem willing_of_assemble {settings : Settings} {value : Json} {chunks : List (List UInt8)}
    {now : Time.Instant} {readFile : String → Except String String} {seed : Messaging.Seed}
    {app : App Service.Memory} {completion : Model.Completion} {plan : Plan} {tokens : List String}
    (hread : Model.Chat.readAnswer value = .ok completion)
    (hparse : Plan.parse completion.text = .ok plan)
    (hgather : Model.gather (Model.readStream (chunks.map .ok)) = (tokens, none))
    (hassemble : Service.assemble settings (Service.Memory.surroundings (.constant value chunks))
      now readFile = .ok (app, seed)) (thread : String) :
    app.team.Willing thread plan (String.join tokens) := by
  obtain ⟨provider, registry, rfl, -⟩ := Service.app_of_assemble hassemble
  constructor
  · intro task outside
    exact ⟨completion.text, Model.Binding.outcome_complete _ _ _ rfl hread, hparse⟩
  · intro prompt outside
    exact ⟨completion.text, Model.Binding.outcome_complete _ _ _ rfl hread⟩
  · intro request outside
    exact Model.Binding.outcome_converse _ _ _ rfl hgather
  · intro run outside
    unfold Team.keep
    split
    · rfl
    · next vault hvault =>
      obtain ⟨limits, -, rfl⟩ := Option.map_eq_some_iff.mp hvault
      split <;> rfl

/-- A service has just been started. Its planner has the language model asked once, and its answer
comes in two pieces. -/
theorem stream_tells_answer_in_pieces :
    let transport : Model.Transport Service.Memory := .constant
      (chatAnswer "a #E1=LLM[\x7bx\x7d]")
      [Text.encode (Model.deltaLine "hel"), Text.encode (Model.deltaLine "lo")]
    ∃ running, Service.start {} transport ⟨0, 0⟩ Service.growingId (fun _ ↦ .error "none") =
        .ok running ∧
      let served := (Order.create (runRequest "greet" "u-1" "t-1" true)).serve running.app
        { outside := running.memory }
      let frames := Frame.readAll served.1.body
      String.join (frames.filterMap Frame.token?) = "hello" ∧
        frames.filterMap Frame.answer? = ["hello"] := by
  intro transport
  obtain ⟨running, seed, hstart, hassemble, htidy, -, hempty⟩ :=
    Service.start_default transport ⟨0, 0⟩ (fun _ ↦ .error "none") Service.eq_of_growingId
  have hsilent : transport.Silent :=
    ⟨fun _ ↦ Consult.silent_answer _, fun _ ↦ Consult.silent_answer _⟩
  have hsends := @Service.Memory.sendsIn_surroundings transport (fun _ ↦ .refl _) (fun _ ↦ .refl _)
  have hkeeps := @Service.Memory.keepsLossily_surroundings transport (fun _ _ ↦ .refl _)
    (fun _ _ ↦ .refl _)
  let text := "a #E1=LLM[\x7bx\x7d]"
  let plan : Plan := ⟨[⟨"a", "#E1", "LLM", "\x7bx\x7d"⟩], text⟩
  have hparse : Plan.parse text = .ok plan := Plan.parse_of_toOption (by decide +kernel)
  have hread : Model.Chat.readAnswer (chatAnswer text) = .ok { model := "m", text } := by
    decide +kernel
  have hgather : Model.gather (Model.readStream
      ([Text.encode (Model.deltaLine "hel"), Text.encode (Model.deltaLine "lo")].map .ok)) =
      (["hel", "lo"], none) := by
    decide +kernel
  have hwilling := willing_of_assemble hread hparse hgather hassemble
  have hbrief : running.app.team.Brief := by
    intro task outside other hother
    obtain ⟨provider, registry, happ, -⟩ := Service.app_of_assemble hassemble
    rw [happ] at hother
    cases (Model.Binding.outcome_complete _ _ _ rfl hread).symm.trans hother
    decide +kernel
  let scene : Scene Service.Memory := { outside := running.memory }
  have hbody : readBody RunRequest.decoder (runRequest "greet" "u-1" "t-1" true) =
      .ok ⟨"greet", "u-1", some "t-1", true⟩ := by decide +kernel
  have htidy' : Service.Memory.household.Tidy scene.outside := htidy
  have hempty' : scene.outside.checkpoints.kept = [] := hempty
  obtain ⟨after, hundertaken⟩ := (App.sendsIn_of_assemble hsends hassemble).accepts htidy' hbody
    (by decide +kernel)
  let undertaking : Undertaking Service.Memory :=
    ⟨"t-1", .start ⟨"greet", "u-1", true⟩, false, after⟩
  obtain ⟨final, hfinal, hanswer⟩ := (undertaking.drives running.app).succeeds (hwilling "t-1")
    (by simp [plan, modelName]) (.inl ⟨rfl, rfl⟩)
  obtain ⟨answer, hfound, htokens, hanswers, -⟩ := stream_tells_answer hassemble hsilent hsends
    hkeeps Service.Memory.aside_household hbrief htidy' hempty' [] _ hundertaken rfl hfinal
  obtain rfl : "hello" = answer := by
    simpa [hanswer] using hfound
  exact ⟨running, hstart, htokens, hanswers⟩

end Errand.Gateway
