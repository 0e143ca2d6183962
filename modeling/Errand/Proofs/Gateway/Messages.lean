import Errand.Proofs.Gateway.Undertaking
import Errand.Proofs.Model.Chunking
import Errand.Proofs.Run.Sending
import Errand.Proofs.Service.Household

/-!
# Messages that are sent while a request is served

The messages of a service are reached by the steps of its runs and by its recorder, and by nobody
else (`App.SendsIn`). `messages_serve` says which messages are added while a request is served, and
in which order: the task, one message for each step that sent one, and the answer. The steps are
those of the run, so nothing is supposed about the plan, the parameters or the results.
-/

set_option autoImplicit false

namespace Errand.Gateway

open Messaging (Household Message)

variable {σ : Type}

/-- Whether the messages of a service are reached by its steps and its recorder only. -/
structure App.SendsIn (app : App σ) (house : Household σ) (assistant : String) : Prop where
  team : app.team.SendsIn house assistant
  freshThread : ∀ outside, house.Beside outside (app.freshThread outside).2
  recorder : ∀ recorder ∈ app.recorder, recorder = ⟨.ofStore house, assistant⟩

/-- The messages of a service that was assembled are reached in this way. -/
theorem App.sendsIn_of_assemble {settings : Settings} {around : Service.Surroundings σ}
    {house : Household σ} {now : Time.Instant} {readFile : String → Except String String}
    {app : App σ} {seed : Messaging.Seed} (haround : around.SendsIn house)
    (h : Service.assemble settings around now readFile = .ok (app, seed)) :
    app.SendsIn house settings.agent.assistant := by
  obtain ⟨provider, registry, rfl, hregistry⟩ := Service.app_of_assemble h
  refine ⟨Service.sendsIn_team haround provider hregistry, haround.freshThread, ?_⟩
  intro recorder hrecorder
  rw [Service.recorder_app hrecorder, haround.repository]

/-- Whether a request is for a task: it tells the task, or what is kept for its thread is a run of
it. -/
def Order.Wants (app : App σ) (scene : Scene σ) (task : Task) : Order → Prop
  | .create request => ∃ body, readBody RunRequest.decoder request = .ok body ∧
      task = { instruction := body.task, actor := body.actor, watched := body.stream }
  | .resume request => ∃ body run, readBody ResumeRequest.decoder request = .ok body ∧
      (Run.claim app.team body.thread scene).1 = .ok (some run) ∧
      task = { run.task with watched := body.stream }

/-- What a team is asked while a run is driven for a request, with the answers, in order. -/
def Undertaking.calls (app : App σ) (undertaking : Undertaking σ) : List Consultation :=
  ((Journey.moving undertaking.run undertaking.claimed).complete app.team.noted undertaking.thread
    { outside := (undertaking.scene.outside, []) }).2.outside.2

/-- The answer with which a run ended, unless it is blank. -/
def answerOf : Except RunFault Run → Option String
  | .error _ => none
  | .ok run => run.answer.filter (!Text.isAllBlank ·)

/-- Whether messages are what is recorded of a text from one to another, if there is one and
recording is on. -/
def App.Records (app : App σ) (text : Option String) (sender receiver : String)
    (sent : List Message) : Prop :=
  List.Forall₂ (fun content message ↦ message.Holds sender receiver content)
    (if app.recorder.isSome then text.toList else []) sent

section Requests

variable {app : App σ} {house : Household σ} {assistant : String} {scene : Scene σ}

/-- Before a run begins, its task is recorded. -/
theorem App.SendsIn.records_task (happ : app.SendsIn house assistant)
    (htidy : house.Tidy scene.outside) (body : RunRequest) :
    (recordTask app body (threadOf app body scene).2).1 = .ok () ∧
      ∃ sent, house.Grows scene.outside sent
          (recordTask app body (threadOf app body scene).2).2.outside ∧
        app.Records (some body.task) body.actor assistant sent := by
  have hthread : house.Grows scene.outside [] (threadOf app body scene).2.outside := by
    unfold threadOf
    cases body.thread with
    | some thread => exact .refl htidy
    | none => exact (happ.freshThread scene.outside).grows htidy
  unfold recordTask App.Records
  cases hrecorder : app.recorder with
  | none => exact ⟨rfl, [], hthread, .nil⟩
  | some recorder =>
    obtain rfl := happ.recorder recorder hrecorder
    obtain ⟨⟨conversation, hok⟩, message, hgrows, hholds⟩ :=
      Messaging.recordTask_grows happ.team.lawful hthread.tidy assistant body.actor body.task
    refine ⟨?_, [message], ?_, .cons hholds .nil⟩
    · simp [hok, Except.map]
    · exact hthread.trans hgrows

/-- After a run has ended, its answer is recorded. -/
theorem App.SendsIn.records_answer (happ : app.SendsIn house assistant)
    (htidy : house.Tidy scene.outside) (outcome : Except RunFault Run) {actor : String}
    (hactor : ∀ run, outcome = .ok run → run.task.actor = actor) :
    ∃ sent, house.Grows scene.outside sent (recordAnswer app outcome scene).outside ∧
      app.Records (answerOf outcome) assistant actor sent := by
  unfold recordAnswer App.Records answerOf
  cases hrecorder : app.recorder with
  | none => exact ⟨[], .refl htidy, .nil⟩
  | some recorder =>
    obtain rfl := happ.recorder recorder hrecorder
    cases outcome with
    | error fault => exact ⟨[], .refl htidy, .nil⟩
    | ok run =>
      cases hanswer : run.answer with
      | none =>
        simp only [hanswer]
        exact ⟨[], .refl htidy, .nil⟩
      | some answer =>
        obtain ⟨sent, hgrows, hsent⟩ := Messaging.recordAnswer_grows happ.team.lawful htidy
          assistant run.task.actor answer
        simp only [hanswer]
        refine ⟨sent, hgrows, ?_⟩
        rw [hactor run rfl] at hsent
        cases hblank : Text.isAllBlank answer with
        | true =>
          rw [if_pos hblank] at hsent
          simp [hblank, hsent]
        | false =>
          rw [if_neg (by simp [hblank])] at hsent
          obtain ⟨message, rfl, hholds⟩ := hsent
          have hkept : (some answer).filter (!Text.isAllBlank ·) = some answer := by
            simp [Option.filter, hblank]
          rw [hkept]
          exact .cons hholds .nil

variable {order : Order} {undertaking : Undertaking σ}

/-- A request that is refused adds no message. -/
theorem App.SendsIn.refused (happ : app.SendsIn house assistant) (htidy : house.Tidy scene.outside)
    {refusal : Refusal} {after : Scene σ}
    (h : order.undertake app scene = .error (refusal, after)) :
    house.Grows scene.outside [] after.outside := by
  have hdecision := order.decision app scene
  rw [h] at hdecision
  cases hdecision with
  | away => exact .refl htidy
  | @unrecorded _ body _ _ hrecord =>
    obtain ⟨hok, -⟩ := happ.records_task htidy body
    rw [hrecord] at hok
    cases hok
  | @unclaimed _ thread _ _ _ hclaim =>
    have hbeside := happ.team.claim thread scene
    rw [hclaim] at hbeside
    exact hbeside.grows htidy

/-- A request for which a run is set going adds its task, if the run is new. -/
theorem App.SendsIn.undertaken (happ : app.SendsIn house assistant)
    (htidy : house.Tidy scene.outside) (h : order.undertake app scene = .ok undertaking) :
    order.Wants app scene undertaking.run.task ∧
      ∃ asked, house.Grows scene.outside asked undertaking.scene.outside ∧
        app.Records (if undertaking.claimed then none else some undertaking.run.task.instruction)
          undertaking.run.task.actor assistant asked := by
  have hdecision := order.decision app scene
  rw [h] at hdecision
  cases hdecision with
  | @created _ body _ hbody hrecord =>
    obtain ⟨-, asked, hgrows, hasked⟩ := happ.records_task htidy body
    rw [hrecord] at hgrows
    exact ⟨⟨body, hbody, rfl⟩, asked, hgrows, hasked⟩
  | @resumed _ body run _ hbody hclaim =>
    have hbeside := happ.team.claim body.thread scene
    rw [hclaim] at hbeside
    refine ⟨⟨body, run, hbody, by rw [hclaim], rfl⟩, [], hbeside.grows htidy, ?_⟩
    simp [App.Records]

/-- A request to run a task is not refused if it makes sense. -/
theorem App.SendsIn.accepts (happ : app.SendsIn house assistant) (htidy : house.Tidy scene.outside)
    {request : Request} {body : RunRequest}
    (hbody : readBody RunRequest.decoder request = .ok body) (hproblem : body.problem? = none) :
    ∃ after, (Order.create request).undertake app scene =
      .ok ⟨(threadOf app body scene).1, .start ⟨body.task, body.actor, body.stream⟩, false,
        after⟩ := by
  obtain ⟨hrecorded, -⟩ := happ.records_task htidy body
  exact ⟨_, Order.undertake_create hbody hproblem (Prod.ext hrecorded rfl)⟩

/-- A run that is driven for a request adds what its steps send and its answer. -/
theorem App.SendsIn.finish (happ : app.SendsIn house assistant)
    (htidy : house.Tidy undertaking.scene.outside) :
    ∃ sent answered,
      house.Grows undertaking.scene.outside (sent ++ answered)
        (undertaking.finish app).2.outside ∧
      Consultation.AllSend undertaking.run.task.actor (undertaking.calls app) sent ∧
      app.Records (answerOf (undertaking.drive app).1) assistant undertaking.run.task.actor
        answered := by
  have hdrives := undertaking.drives app
  obtain ⟨calls, sent, hnoted, hgrows, hsends⟩ := hdrives.sends happ.team htidy
  have hcourse := @Journey.drives_complete _ app.team.noted undertaking.thread undertaking.claimed
    undertaking.run { outside := (undertaking.scene.outside, []) }
  have hcalls : undertaking.calls app = calls := congrArg Prod.snd (hcourse.unique (hnoted [])).2
  let after : Scene σ := { (undertaking.drive app).2 with events := undertaking.scene.events }
  have htidy' : house.Tidy after.outside := hgrows.tidy
  obtain ⟨answered, hanswer, hanswered⟩ := happ.records_answer htidy' (undertaking.drive app).1
    fun run hrun ↦ congrArg Task.actor (hdrives.task run hrun)
  exact ⟨sent, answered, hgrows.trans hanswer, hcalls ▸ hsends, hanswered⟩

/-- Requests only add messages. -/
theorem App.SendsIn.grows_serve (happ : app.SendsIn house assistant)
    (htidy : house.Tidy scene.outside) (order : Order) :
    ∃ sent, house.Grows scene.outside sent (order.serve app scene).2.outside := by
  rw [order.serve_eq]
  cases hundertake : order.undertake app scene with
  | error refused => exact ⟨[], happ.refused htidy hundertake⟩
  | ok undertaking =>
    obtain ⟨-, asked, hbefore, -⟩ := happ.undertaken htidy hundertake
    obtain ⟨sent, answered, hafter, -⟩ := happ.finish hbefore.tidy
    exact ⟨_, hbefore.trans hafter⟩

theorem App.SendsIn.grows_serveAll (happ : app.SendsIn house assistant)
    (htidy : house.Tidy scene.outside) (orders : List Order) :
    ∃ sent, house.Grows scene.outside sent (serveAll app orders scene).2.outside := by
  induction orders generalizing scene with
  | nil => exact ⟨[], .refl htidy⟩
  | cons order rest ih =>
    obtain ⟨sent, hserved⟩ := happ.grows_serve htidy order
    obtain ⟨more, hrest⟩ := ih hserved.tidy
    exact ⟨sent ++ more, hserved.trans hrest⟩

/-- While a request is served, messages are added to the store and nothing is taken away. A request
that is refused adds none. A run that is set going adds, in this order: the task, if the run is new
and recording is on; one message in the name of the actor for each step that sent one; and the
answer, if there is one that is not blank and recording is on. -/
theorem messages_serve (happ : app.SendsIn house assistant) (htidy : house.Tidy scene.outside)
    (order : Order) :
    (∀ refused, order.undertake app scene = .error refused →
      house.Grows scene.outside [] (order.serve app scene).2.outside) ∧
    ∀ undertaking, order.undertake app scene = .ok undertaking →
      let task := undertaking.run.task
      order.Wants app scene task ∧
      ∃ asked sent answered,
        house.Grows scene.outside (asked ++ sent ++ answered)
          (order.serve app scene).2.outside ∧
        app.Records (if undertaking.claimed then none else some task.instruction) task.actor
          assistant asked ∧
        Consultation.AllSend task.actor (undertaking.calls app) sent ∧
        app.Records (answerOf (undertaking.drive app).1) assistant task.actor answered := by
  rw [order.serve_eq]
  constructor
  · rintro ⟨refusal, after⟩ hrefused
    rw [hrefused]
    exact happ.refused htidy hrefused
  · intro undertaking hundertaken task
    rw [hundertaken]
    obtain ⟨hwants, asked, hbefore, hasked⟩ := happ.undertaken htidy hundertaken
    obtain ⟨sent, answered, hafter, hsends, hanswered⟩ := happ.finish hbefore.tidy
    refine ⟨hwants, asked, sent, answered, ?_, hasked, hsends, hanswered⟩
    rw [List.append_assoc]
    exact hbefore.trans hafter

end Requests

/-- The first message of a service that has just been started is the task that it is asked to run.
-/
theorem messages_serve_task :
    ∃ running message rest,
      Service.start {} (.constant .null []) ⟨0, 0⟩ Service.growingId (fun _ ↦ .error "none") =
        .ok running ∧
      ((Order.create (runRequest "hello" "u-1" "t-1")).serve running.app
        { outside := running.memory }).2.outside.messages.messages = message :: rest ∧
      message.Holds "u-1" ({} : Settings).agent.assistant "hello" := by
  obtain ⟨running, seed, hstart, hassemble, htidy, hempty, -⟩ :=
    Service.start_default (.constant .null []) ⟨0, 0⟩ (fun _ ↦ .error "none")
      Service.eq_of_growingId
  let scene : Scene Service.Memory := { outside := running.memory }
  have happ := App.sendsIn_of_assemble (Service.Memory.sendsIn_surroundings
    (fun _ ↦ .refl _) (fun _ ↦ .refl _)) hassemble
  have hrecorder : running.app.recorder.isSome := by
    obtain ⟨provider, registry, happ, -⟩ := Service.app_of_assemble hassemble
    rw [happ]
    rfl
  have hbody : readBody RunRequest.decoder (runRequest "hello" "u-1" "t-1") =
      .ok ⟨"hello", "u-1", some "t-1", false⟩ := by decide +kernel
  have htidy' : Service.Memory.household.Tidy scene.outside := htidy
  obtain ⟨after, hundertaken⟩ := happ.accepts htidy' hbody (by decide +kernel)
  obtain ⟨-, asked, sent, answered, hgrows, hasked, -⟩ :=
    (messages_serve happ htidy' _).2 _ hundertaken
  rw [App.Records, if_pos hrecorder] at hasked
  cases hasked with
  | cons hholds hnil =>
    cases hnil
    refine ⟨running, _, sent ++ answered, hstart, hgrows.messages.trans ?_, hholds⟩
    have hbefore : (Service.Memory.household.store scene.outside).messages = [] :=
      congrArg Messaging.Store.messages hempty
    rw [hbefore, List.nil_append, List.append_assoc]
    rfl

end Errand.Gateway
