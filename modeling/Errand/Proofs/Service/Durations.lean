import Errand.Proofs.Messaging.Recent

/-!
# Durations that are too long

Two durations can be set without a bound: for how long runs are kept, and how far back replies look
into a conversation. A vault cannot count a time of more than a thousand years, so a service that is
told to keep runs for longer cannot be started (`start_eq_impossible_iff`). A window that cannot be
counted in milliseconds is a fault like any other (`forConversation_of_long`). One that can be
counted may still begin before the earliest instant (`Overreaches`), and then a request for replies
to a conversation that there is has no response (`answer_eq_none_iff`).

`durations_impossible_iff` says that nothing else makes a service impossible or leaves a request
without a response.
-/

set_option autoImplicit false

namespace Errand

open Messaging (SmartReplies Household)
open Service (Memory)
open Time (Instant)

variable {σ : Type}

/-- There is no instant some nanoseconds earlier if the earliest instant is not that far back. -/
theorem Time.Instant.before?_eq_none_iff {instant : Instant} {nanos : Nat} :
    instant.before? nanos = none ↔ instant.sinceStart < Instant.first.sinceStart + nanos := by
  have hfirst : Instant.first.sinceStart = Instant.first.seconds * 1000000000 := by decide
  rw [before?, hfirst]
  dsimp only
  split <;> simp <;> omega

/-! ### Requests for replies -/

/-- Whether the window of replies can be counted but begins before the earliest instant. -/
structure Messaging.SmartReplies.Overreaches (replies : SmartReplies σ) (outside : σ) : Prop where
  le_longestWindow : replies.window ≤ SmartReplies.longestWindow
  starts_before :
    (replies.now outside).sinceStart < Instant.first.sinceStart + replies.window

namespace Messaging.SmartReplies

variable {replies : SmartReplies σ} {conversation : String} {outside : σ}

/-- A window that cannot be counted is refused. -/
theorem forConversation_of_long {place : Messaging.Conversation}
    (hfind : replies.repository.findConversation conversation outside =
      ({ outcome := .ok (some place) }, outside))
    (hwindow : longestWindow < replies.window) :
    replies.forConversation conversation outside =
      ({ outcome := .error (.configuration ("Invalid reply window: " ++
          "Source duration value is out of range for the target type")) }, outside) := by
  rw [forConversation, Consult.bind_of_ok hfind]
  dsimp only
  rw [if_pos hwindow]
  rfl

/-- It is impossible to suggest replies exactly if there is a conversation to reply to and the
window begins before the earliest instant. -/
theorem outcome_eq_ok_none_iff {house : Household σ}
    (hhouse : replies.repository = .ofStore house) :
    (replies.forConversation conversation outside).1.outcome = .ok none ↔
      (house.store outside).findConversation conversation ≠ none ∧ replies.Overreaches outside := by
  have hfind : replies.repository.findConversation conversation outside =
      ({ outcome := .ok ((house.store outside).findConversation conversation) }, outside) := by
    rw [hhouse]
    rfl
  cases hplace : (house.store outside).findConversation conversation with
  | none =>
    rw [hplace] at hfind
    simp [forConversation_of_missing hfind]
  | some place =>
    rw [hplace] at hfind
    rcases Nat.lt_or_ge longestWindow replies.window with hlong | hwindow
    · have hrefused : ¬ replies.Overreaches outside := fun h ↦
        Nat.not_lt.mpr h.le_longestWindow hlong
      simp [forConversation_of_long hfind hlong, hrefused]
    · cases hsince : (replies.now outside).before? replies.window with
      | none =>
        have hearly : replies.Overreaches outside :=
          ⟨hwindow, Instant.before?_eq_none_iff.mp hsince⟩
        simp [forConversation_of_found hfind hwindow, hsince, hearly]
      | some since =>
        have hlate : ¬ replies.Overreaches outside := fun h ↦ by
          rw [Instant.before?_eq_none_iff.mpr h.starts_before] at hsince
          cases hsince
        have hlist : replies.repository.listMessages
              { conversation := some conversation, since := some since } {} outside =
            ({ outcome := .ok ((house.store outside).listMessages
              { conversation := some conversation, since := some since } {}) }, outside) := by
          rw [hhouse]
          rfl
        rw [forConversation_of_listed hfind hwindow (Instant.before?_eq_some_iff.mp hsince) hlist,
          Consult.outcome_map]
        simp only [hlate, and_false, iff_false]
        cases (replies.suggest _ outside).1.outcome <;> simp [Except.map]

end Messaging.SmartReplies

namespace Gateway

variable {app : App σ} {request : Request} {scene : Scene σ}

/-- Whether a request asks for replies to a conversation. -/
structure Request.AsksForReplies (request : Request) (conversation : String) : Prop where
  method_eq : request.method = "POST"
  path_eq : request.path = "/v1/conversations/smart-replies"
  body_eq : readBody smartRepliesDecoder request = .ok conversation
  not_blank : Text.isAllBlank conversation = false

/-- A request for replies to a conversation. -/
def repliesRequest (conversation : String) : Request where
  method := "POST"
  target := "/v1/conversations/smart-replies"
  headers := [("content-type", "application/json")]
  body := (Json.obj [("conversationId", .str conversation)]).compact

theorem asksForReplies_repliesRequest : (repliesRequest "c-1").AsksForReplies "c-1" :=
  ⟨rfl, by decide +kernel, by decide +kernel, by decide +kernel⟩

/-- A request for replies has no response exactly if it is impossible to suggest them. -/
theorem suggestReplies_eq_none_iff :
    (suggestReplies app request scene).1 = none ↔
      ∃ conversation, readBody smartRepliesDecoder request = .ok conversation ∧
        Text.isAllBlank conversation = false ∧
        ∃ replies ∈ app.smartReplies,
          (replies.forConversation conversation scene.outside).1.outcome = .ok none := by
  unfold suggestReplies
  cases readBody smartRepliesDecoder request with
  | error refusal => simp
  | ok conversation =>
    cases hblank : Text.isAllBlank conversation with
    | true => simp [hblank]
    | false =>
      cases hreplies : app.smartReplies with
      | none => simp [hblank]
      | some replies =>
        have houtcome := scene.outcome_consult false (replies.forConversation conversation)
        rcases hconsult : scene.consult false (replies.forConversation conversation) with
          ⟨_ | _ | _, after⟩ <;>
        · rw [hconsult] at houtcome
          simp [hblank, hconsult, ← houtcome]

/-- Only on the route of replies there may be no response. -/
theorem Route.serve_eq_none_iff {route : Route} :
    (route.serve app request scene).1 = none ↔
      route = .smartReplies ∧ (suggestReplies app request scene).1 = none := by
  cases route <;> simp [Route.serve]

theorem Route.lookup_eq_smartReplies_iff {path : String} :
    Route.all.lookup path = some .smartReplies ↔ path = "/v1/conversations/smart-replies" := by
  constructor
  · intro h
    obtain ⟨front, back, hall, -⟩ := List.lookup_eq_some_iff.mp h
    have hmem : (path, Route.smartReplies) ∈ Route.all := by simp [hall]
    simpa [Route.all] using hmem
  · rintro rfl
    decide

theorem route_eq_none_iff :
    (route app request scene).1 = none ↔
      request.method = "POST" ∧ request.path = "/v1/conversations/smart-replies" ∧
        (suggestReplies app request scene).1 = none := by
  rw [← Route.lookup_eq_smartReplies_iff]
  unfold Gateway.route
  cases Route.all.lookup request.path with
  | none => simp
  | some route =>
    have hserved : (route.takes request.method ∧ (route.serve app request scene).1 = none) ↔
        request.method = "POST" ∧ route = .smartReplies ∧
          (suggestReplies app request scene).1 = none := by
      rw [Route.serve_eq_none_iff]
      cases route <;> simp [Route.takes, Route.isRead]
    rw [Option.some.injEq, ← hserved]
    dsimp only
    by_cases htakes : route.takes request.method
    · rw [if_pos htakes]
      split <;> simp [htakes]
    · simp [htakes]

/-- A request that can be sent has no response exactly if it asks for replies to a conversation for
which it is impossible to suggest them. -/
theorem handle_eq_none_iff {id : String} {replies : Messaging.SmartReplies σ}
    (hsendable : request.isSendable) (hreplies : app.smartReplies = some replies) :
    (handle app id request scene).1 = none ↔
      ∃ conversation, request.AsksForReplies conversation ∧
        (replies.forConversation conversation scene.outside).1.outcome = .ok none := by
  have hroute : (handle app id request scene).1 = none ↔ (route app request scene).1 = none := by
    unfold handle
    by_cases hmethod : request.method = "OPTIONS"
    · simp [hsendable, hmethod, route_eq_none_iff]
    · rcases route app request scene with ⟨_ | response, after⟩ <;> simp [hsendable, hmethod]
  rw [hroute, route_eq_none_iff, suggestReplies_eq_none_iff]
  simp only [hreplies]
  constructor
  · rintro ⟨hmethod, hpath, conversation, hbody, hblank, _, ⟨rfl⟩, houtcome⟩
    exact ⟨conversation, ⟨hmethod, hpath, hbody, hblank⟩, houtcome⟩
  · rintro ⟨conversation, hasks, houtcome⟩
    exact ⟨hasks.method_eq, hasks.path_eq, conversation, hasks.body_eq, hasks.not_blank, replies,
      rfl, houtcome⟩

end Gateway

/-! ### Services -/

namespace Service

open Gateway (Request repliesRequest asksForReplies_repliesRequest)

variable {settings : Settings} {transport : Model.Transport Memory} {now : Instant}
  {ids : Nat → String} {readFile : String → Except String String} {running : Running}

/-- A service cannot be started at all exactly if nothing is wrong with its provider and its seed,
and it is to keep runs for longer than a vault can count. -/
theorem start_eq_impossible_iff :
    start settings transport now ids readFile = .error .impossible ↔
      (∃ found, provider settings.languageModel = .ok found) ∧
        (∃ found, seed now readFile settings.agent = .ok found) ∧
        settings.agent.checkpoints ∧
        Checkpoint.Limits.longest < settings.agent.checkpointSeconds := by
  have hlimits : (limits settings.agent).all (·.feasible) = false ↔
      settings.agent.checkpoints ∧
        Checkpoint.Limits.longest < settings.agent.checkpointSeconds := by
    unfold limits
    split <;> simp_all [Checkpoint.Limits.feasible]
  rw [← hlimits]
  cases hprovider : provider settings.languageModel with
  | error fault => simp [start, assemble, hprovider, Except.mapError, bind, Except.bind]
  | ok found =>
    cases hseed : seed now readFile settings.agent with
    | error fault => simp [start, assemble, hprovider, hseed, Except.mapError, bind, Except.bind]
    | ok entries =>
      cases hfeasible : (limits settings.agent).all (·.feasible) with
      | true => simp [start_eq hprovider hseed hfeasible]
      | false =>
        simp [start, assemble, hprovider, hseed, hfeasible, Messaging.registerAll_operations,
          Except.mapError, bind, Except.bind, throw, throwThe, MonadExceptOf.throw]

theorem assemble_of_start (h : start settings transport now ids readFile = .ok running) :
    ∃ found, assemble settings (Memory.surroundings transport) now readFile =
      .ok (running.app, found) := by
  unfold start at h
  cases hassemble : assemble settings (Memory.surroundings transport) now readFile with
  | error obstacle => simp [hassemble, bind, Except.bind] at h
  | ok assembled =>
    simp only [hassemble, bind, Except.bind, pure, Except.pure, Except.ok.injEq] at h
    exact ⟨assembled.2, by rw [← h]⟩

/-- A request that can be sent to a service has no response exactly if it asks for replies to a
conversation that there is, and the window can be counted and begins before the earliest instant. -/
theorem Running.answer_eq_none_iff
    (hstart : start settings transport now ids readFile = .ok running) (memory : Memory)
    {request : Request} (hsendable : request.isSendable) :
    let window := settings.agent.replyWindowSeconds * 1000000000
    ({ running with memory }.answer request).1 = none ↔
      ∃ conversation, request.AsksForReplies conversation ∧
        memory.messages.findConversation conversation ≠ none ∧
        window ≤ SmartReplies.longestWindow ∧
        memory.now.sinceStart < Instant.first.sinceStart + window := by
  intro window
  obtain ⟨_, hassemble⟩ := assemble_of_start hstart
  obtain ⟨provider, registry, happ, -⟩ := app_of_assemble hassemble
  let around := Memory.surroundings transport
  let replies : SmartReplies Memory :=
    { repository := around.repository
      suggest := Model.suggest
        { transport, provider, model := settings.languageModel.model
          temperature := settings.languageModel.temperature }
      window, now := around.now }
  have hreplies : running.app.smartReplies = some replies := by rw [happ]; rfl
  have hserve : ({ running with memory }.serve request).1 = none ↔
      ∃ conversation, request.AsksForReplies conversation ∧
        (replies.forConversation conversation memory.mint.2).1.outcome = .ok none :=
    Gateway.handle_eq_none_iff hsendable hreplies
  have hanswer : ({ running with memory }.answer request).1 = none ↔
      ({ running with memory }.serve request).1 = none := by
    unfold answer
    split
    · next hpage =>
      have hmethod : request.method ≠ "POST" := by
        intro hpost
        simp [asksForPage, hpost] at hpage
      rw [hserve]
      simp only [reduceCtorEq, false_iff]
      rintro ⟨conversation, hasks, -⟩
      exact hmethod hasks.method_eq
    · rfl
  rw [hanswer, hserve]
  refine exists_congr fun conversation ↦ and_congr_right fun _ ↦ ?_
  have hhouse : replies.repository = .ofStore Memory.household := rfl
  rw [SmartReplies.outcome_eq_ok_none_iff hhouse]
  exact and_congr_right fun _ ↦ ⟨fun h ↦ ⟨h.1, h.2⟩, fun h ↦ ⟨h.1, h.2⟩⟩

/-- Whatever the settings, a service cannot be started at all exactly if nothing is wrong with its
provider and its seed, and it is to keep runs for more than a thousand years of 365 days. Whatever
is in the memory of a service that was started, a request that can be sent has no response exactly
if it asks for replies to a conversation that there is, and their window is one that milliseconds
can count but begins before the earliest instant. -/
theorem durations_impossible_iff (settings : Settings) (transport : Model.Transport Memory)
    (now : Instant) (ids : Nat → String) (readFile : String → Except String String) :
    (start settings transport now ids readFile = .error .impossible ↔
      (∃ found, provider settings.languageModel = .ok found) ∧
        (∃ found, seed now readFile settings.agent = .ok found) ∧
        settings.agent.checkpoints ∧
        1000 * 365 * 86400 < settings.agent.checkpointSeconds) ∧
      ∀ running, start settings transport now ids readFile = .ok running →
        ∀ (memory : Memory) (request : Request), request.isSendable →
          let window := settings.agent.replyWindowSeconds * 1000000000
          (({ running with memory }.answer request).1 = none ↔
            ∃ conversation, request.AsksForReplies conversation ∧
              memory.messages.findConversation conversation ≠ none ∧
              window ≤ (2 ^ 63 - 1) * 1000000 ∧
              memory.now.sinceStart < Instant.first.sinceStart + window) :=
  ⟨start_eq_impossible_iff, fun _ hstart memory _ hsendable ↦
    Running.answer_eq_none_iff hstart memory hsendable⟩

/-- Runs are kept for a second too long. A window begins with the earliest instant, and another a
second before it. -/
theorem durations_impossible_iff_edge :
    let started (kept window : Nat) :=
      start { agent := { checkpointSeconds := kept, replyWindowSeconds := window } }
        (.constant .null []) ⟨0, 0⟩ growingId fun _ ↦ .error "none"
    let memory : Memory :=
      { messages := Messaging.Store.ofLists [] [⟨"c-1", ["a"], ⟨0, 0⟩⟩] []
        now := ⟨0, 0⟩, ids := growingId }
    started 31536000000 300 ≠ .error .impossible ∧ started 31536000001 300 = .error .impossible ∧
      (repliesRequest "c-1").isSendable ∧
      ∃ wide wider, started 3600 8334601228800 = .ok wide ∧
        started 3600 8334601228801 = .ok wider ∧
        ({ wide with memory }.answer (repliesRequest "c-1")).1 ≠ none ∧
        ({ wider with memory }.answer (repliesRequest "c-1")).1 = none := by
  intro started memory
  let settings (kept window : Nat) : Settings :=
    { agent := { checkpointSeconds := kept, replyWindowSeconds := window } }
  have hdurations (kept window : Nat) := durations_impossible_iff (settings kept window)
    (.constant .null []) ⟨0, 0⟩ growingId fun _ ↦ .error "none"
  have hsendable : (repliesRequest "c-1").isSendable := by decide +kernel
  have hwide : started 3600 8334601228800 = .ok _ := start_eq rfl rfl (by decide)
  have hwider : started 3600 8334601228801 = .ok _ := start_eq rfl rfl (by decide)
  refine ⟨fun h ↦ ?_, (hdurations 31536000001 300).1.mpr ⟨⟨_, rfl⟩, ⟨_, rfl⟩, rfl, by decide⟩,
    hsendable, _, _, hwide, hwider, fun h ↦ ?_, ?_⟩
  · have hlong := ((hdurations 31536000000 300).1.mp h).2.2.2
    simp [settings] at hlong
  · obtain ⟨_, -, -, -, hearly⟩ :=
      ((hdurations 3600 8334601228800).2 _ hwide memory _ hsendable).mp h
    exact absurd hearly (by decide)
  · exact ((hdurations 3600 8334601228801).2 _ hwider memory _ hsendable).mpr
      ⟨"c-1", asksForReplies_repliesRequest, by decide, by decide, by decide⟩

/-- A service is to keep runs for as long as can be set, and cannot be started. Another is to look
back three hundred thousand years, and has no response to a request for replies. -/
theorem durations_unbounded :
    let text := "\x7b\"conversations\": [\x7b\"id\": \"c-1\", \"participants\": [\"a\"]\x7d]\x7d"
    let started (agent : Settings.Agent) :=
      start { agent } (.constant .null []) ⟨1700000000, 0⟩ growingId fun _ ↦ .ok text
    started { checkpointSeconds := 2 ^ 64 - 1 } = .error .impossible ∧
      ∃ running, started { seedPath := some "seed.json", replyWindowSeconds := 10 ^ 13 } =
          .ok running ∧
        (repliesRequest "c-1").isSendable ∧ (running.answer (repliesRequest "c-1")).1 = none := by
  intro text started
  have hseed : seed ⟨1700000000, 0⟩ (fun _ ↦ .ok text)
      { seedPath := some "seed.json", replyWindowSeconds := 10 ^ 13 } =
      .ok ⟨[], [⟨"c-1", ["a"], ⟨1700000000, 0⟩⟩], []⟩ := by decide +kernel
  have hstarted : started { seedPath := some "seed.json", replyWindowSeconds := 10 ^ 13 } = .ok _ :=
    start_eq rfl hseed (by decide)
  have hsendable : (repliesRequest "c-1").isSendable := by decide +kernel
  refine ⟨start_eq_impossible_iff.mpr ⟨⟨_, rfl⟩, ⟨_, rfl⟩, rfl, by decide⟩, _, hstarted, hsendable,
    (Running.answer_eq_none_iff hstarted _ hsendable).mpr
      ⟨"c-1", asksForReplies_repliesRequest, by decide, by decide, by decide⟩⟩

end Service

end Errand
