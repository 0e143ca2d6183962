import Errand.Proofs.Gateway.Client
import Errand.Proofs.Gateway.Undertaking
import Errand.Proofs.Run.Showing

/-!
# What a stream tells

A client takes a frame apart by its name: `Frame.telling?` is the plan, the token, the step, the
answer or the error that it tells, or the mark that it is. `Undertaking.transcribe` drives a run
with a team that writes down what it says, and `stream_tells_run` says that a client who reads the
stream of the run is told of this, in order, what `Run.recount` makes of it, and then how the run
ended: whatever the collaborators answered, and whatever characters stand in their texts. Nothing
that they write can pass for a mark, since a mark is no JSON.
-/

set_option autoImplicit false

namespace Errand

/-! ### Values that come back -/

theorem Event.returns_stepPayload {index : Nat} (h : index < 2 ^ 64) (step : Step)
    (output : String) : (stepPayload index step output).Returns := by
  refine Json.returns_of ?_ ?_ ?_
  · simpa [stepPayload, Json.nat, Json.IsWhole, Json.HaveWhole] using by omega
  · simp [stepPayload, Json.nat, Json.HasDistinctKeys, Json.FieldsHaveDistinctKeys, Entries.names]
  · simp [stepPayload, Json.nat, Json.depth, Json.depthFields, Json.Source.maxDepth]

/-- Steps have nothing but texts in them. -/
theorem Plan.returns_steps (steps : List Step) :
    (Json.obj [("steps", .arr (steps.map Step.toJson))]).Returns := by
  have hsteps : Json.AreWhole (steps.map Step.toJson) ∧
      Json.ItemsHaveDistinctKeys (steps.map Step.toJson) ∧
      Json.depthItems (steps.map Step.toJson) ≤ 1 := by
    induction steps with
    | nil => exact ⟨trivial, trivial, Nat.zero_le 1⟩
    | cons step steps ih =>
      obtain ⟨hwhole, hkeys, hdepth⟩ := ih
      refine ⟨⟨?_, hwhole⟩, ⟨?_, hkeys⟩, ?_⟩
      · simp [Step.toJson, Json.IsWhole, Json.HaveWhole]
      · simp [Step.toJson, Json.HasDistinctKeys, Json.FieldsHaveDistinctKeys, Entries.names]
      · simpa [Step.toJson, Json.depthItems, Json.depth, Json.depthFields] using hdepth
  obtain ⟨hwhole, hkeys, hdepth⟩ := hsteps
  refine Json.returns_of ⟨hwhole, trivial⟩ ⟨by simp [Entries.names], hkeys, trivial⟩ ?_
  simp only [Json.depth, Json.depthFields, Json.Source.maxDepth]
  omega

namespace Gateway

/-! ### What frames tell -/

/-- What a frame tells a client. -/
inductive Telling
  | plan (steps : List Step)
  | token (text : String)
  | step (payload : Json)
  | answer (thread text : String)
  | error (thread : String) (detail : Json)
  | mark (text : String)

/-- What a client takes from the value in a frame, by the name of the frame. -/
def Telling.ofValue? (name : String) (value : Json) : Option Telling :=
  match name with
  | "plan" => do
    let steps ← value.field? "steps"
    let steps ← (Json.decodeValue (Json.Decode.list Step.decoder) steps).toOption
    return .plan steps
  | "token" => return .token (← (← value.field? "text").str?)
  | "step" => return .step value
  | "answer" =>
    return .answer (← (← value.field? "threadId").str?) (← (← value.field? "answer").str?)
  | "error" => return .error (← (← value.field? "threadId").str?) (← value.field? "error")
  | _ => none

/-- What a frame tells; one without a name is a mark. -/
def Frame.telling? (frame : Frame) : Option Telling :=
  match frame.name with
  | none => some (.mark frame.data)
  | some name => (Json.parse frame.data).toOption.bind (Telling.ofValue? name)

/-- What somebody who follows a run is told by an event. -/
def Telling.ofEvent : Event → Telling
  | .plan written => .plan written.steps
  | .token text => .token text
  | .step _ payload => .step payload

/-- How a client is told of the end of a run. -/
def Telling.ofEnd (thread : String) : Except RunFault Run → List Telling
  | .ok run => [.answer thread (run.answer.getD ""), .mark doneMark]
  | .error fault => [.error thread (Refusal.ofRunFault fault).detail, .mark errorMark]

namespace Frame

theorem telling?_ofJson {value : Json} (h : value.Returns) (name : String) :
    (ofJson name value).telling? = Telling.ofValue? name value := by
  change (Json.parse value.compact).toOption.bind _ = _
  rw [h]
  rfl

/-- A client learns of an event what it shows. -/
theorem telling?_ofEvent {event : Event} (h : event.IsCounted) :
    (ofEvent event).telling? = some (.ofEvent event) := by
  cases event with
  | plan plan =>
    rw [ofEvent, telling?_ofJson (Plan.returns_steps plan.steps)]
    have hsteps : Json.decodeValue (Json.Decode.list Step.decoder)
        (.arr (plan.steps.map Step.toJson)) = .ok plan.steps := by
      rw [Json.decodeValue, Json.Decode.list_arr Step.decoder Step.toJson plan.steps (by decide)
        fun step ↦ Step.decoder_toJson step (by decide)]
    simp [Telling.ofValue?, Json.field?, hsteps, Except.toOption, Telling.ofEvent]
  | token text =>
    have hreturns := Json.returns_texts [("text", text)] (by simp)
    exact telling?_ofJson hreturns "token"
  | step id payload =>
    obtain ⟨index, step, output, hindex, rfl⟩ := h
    rw [ofEvent, telling?_ofJson (Event.returns_stepPayload hindex step output)]
    rfl

/-- A frame with a name that tells anything holds no mark. -/
theorem data_ne_mark {frame : Frame} {telling : Telling} (hname : frame.name.isSome)
    (h : frame.telling? = some telling) : frame.data ≠ doneMark ∧ frame.data ≠ errorMark := by
  have hmarks : (Json.parse doneMark).toBool = false ∧ (Json.parse errorMark).toBool = false := by
    decide +kernel
  obtain ⟨name, hname⟩ := Option.isSome_iff_exists.mp hname
  have hparse : (Json.parse frame.data).toBool = true := by
    rw [telling?, hname] at h
    cases hdata : Json.parse frame.data with
    | error flaw => simp [hdata, Except.toOption] at h
    | ok value => rfl
  constructor <;> intro hmark <;> rw [hmark] at hparse
  · exact absurd hparse (by simp [hmarks.1])
  · exact absurd hparse (by simp [hmarks.2])

end Frame

/-- What a client is told of a refusal comes back, with the thread, if the number of the step has 64
bits. -/
theorem Refusal.returns_detail (refusal : Refusal)
    (h : ∀ index ∈ refusal.step, index < 2 ^ 64) (thread : String) :
    (Json.obj [("threadId", .str thread), ("error", refusal.detail)]).Returns := by
  obtain ⟨status, kind, message, phase, step, code⟩ := refusal
  refine Json.returns_of ?_ ?_ ?_
  · cases step with
    | none =>
      cases phase <;> cases code <;> simp [detail, Json.IsWhole, Json.HaveWhole]
    | some index =>
      have hindex : index < 2 ^ 64 := h index rfl
      cases phase <;> cases code <;>
        simp [detail, Json.nat, Json.IsWhole, Json.HaveWhole] <;> omega
  · cases phase <;> cases step <;> cases code <;>
      simp [detail, Json.nat, Json.HasDistinctKeys, Json.FieldsHaveDistinctKeys, Entries.names]
  · cases phase <;> cases step <;> cases code <;>
      simp [detail, Json.nat, Json.depth, Json.depthFields, Json.Source.maxDepth]

/-- A client learns how a run ended, and a mark comes last. -/
theorem telling?_closingFrames {outcome : Except RunFault Run}
    (h : ∀ fault, outcome = .error fault → ∀ index ∈ fault.failedStep, index < 2 ^ 64)
    (thread : String) :
    ∃ last mark, closingFrames thread
        (match outcome with
          | .ok run => .ok (run.answer.getD "")
          | .error fault => .error (.ofRunFault fault)) = [last, mark] ∧ last.name.isSome ∧
      [last, mark].map Frame.telling? = (Telling.ofEnd thread outcome).map some := by
  cases outcome with
  | ok run =>
    refine ⟨_, _, rfl, rfl, ?_⟩
    have hreturns : (Json.obj [("threadId", .str thread),
        ("answer", .str (run.answer.getD ""))]).Returns :=
      Json.returns_texts [("threadId", thread), ("answer", run.answer.getD "")] (by simp)
    rw [List.map_cons, Frame.telling?_ofJson hreturns]
    rfl
  | error fault =>
    refine ⟨_, _, rfl, rfl, ?_⟩
    rw [List.map_cons, Frame.telling?_ofJson
      (Refusal.returns_detail (.ofRunFault fault) (h fault rfl) thread)]
    rfl

/-! ### Streams -/

variable {σ : Type} {app : App σ} {order : Order} {scene : Scene σ}

theorem Response.contentType_ofRefusal (refusal : Refusal) :
    (Response.ofRefusal refusal).contentType = some "application/json" := rfl

/-- Whoever is answered by a stream follows a run that was set going. -/
theorem undertaken_of_stream
    (hstream : (order.serve app scene).1.contentType = some "text/event-stream") :
    ∃ undertaking, order.undertake app scene = .ok undertaking ∧
      undertaking.run.task.watched = true ∧
      order.serve app scene = undertaking.finish app := by
  rw [order.serve_eq] at hstream ⊢
  cases hundertaken : order.undertake app scene with
  | error refused =>
    rw [hundertaken] at hstream
    simp [Response.contentType_ofRefusal] at hstream
  | ok undertaking =>
    rw [hundertaken] at hstream
    refine ⟨undertaking, rfl, ?_, rfl⟩
    by_contra hwatched
    simp only [Undertaking.finish, present, hwatched] at hstream
    cases houtcome : (undertaking.drive app).1 with
    | ok run => simp [houtcome, Response.ofJson] at hstream
    | error fault => simp [houtcome, Response.contentType_ofRefusal] at hstream

/-- The plan of a run that is set going can be counted, if those of the runs that are kept can. -/
theorem size_of_undertaken {undertaking : Undertaking σ}
    (hclaims : ∀ thread run, (Run.claim app.team thread scene).1 = .ok (some run) →
      run.size < 2 ^ 64)
    (h : order.undertake app scene = .ok undertaking) : undertaking.run.size < 2 ^ 64 := by
  have hdecision := order.decision app scene
  rw [h] at hdecision
  cases hdecision with
  | created => simp [Run.start, Run.size]
  | @resumed _ body run after _ hclaim => exact hclaims body.thread run (by rw [hclaim])

/-- Drives the run to its end while all that its team says is written down: how the run ended, what
everything outside has come to, and what was said. -/
def Undertaking.transcribe (app : App σ) (undertaking : Undertaking σ) :
    Except RunFault Run × σ × List Utterance :=
  let (outcome, after) := (Journey.moving undertaking.run undertaking.claimed).complete
    (app.team.transcribed id) undertaking.thread { outside := (undertaking.scene.outside, []) }
  (outcome, after.outside)

theorem Undertaking.transcribe_of_drives {undertaking : Undertaking σ} {after : σ}
    {outcome : Except RunFault Run} {transcript : List Utterance}
    (h : undertaking.run.Drives (app.team.transcribed id) undertaking.thread undertaking.claimed
      (undertaking.scene.outside, []) outcome (after, transcript)) :
    undertaking.transcribe app = (outcome, after, transcript) := by
  obtain ⟨houtcome, hafter⟩ := Run.Drives.unique
    (Journey.drives_complete undertaking.run { outside := (undertaking.scene.outside, []) }) h
  exact Prod.ext houtcome hafter

/-- A run is set going by a request and followed as a stream; the texts of the planner and the plans
of the runs that are kept are such as memory can hold. All that the team of the run says may be
written down; this transcript changes nothing about the run, and what it has for a step is the reply
to what the step asks. Whatever the collaborators answer, a client who reads the stream is told of
the transcript the plan, if one was written for this request, and then every token of every reply,
each step with what came of it right after its tokens; then the answer or why the run failed, and
then the mark that goes with it. No other frame holds a mark. Of the steps those are told that were
carried out for this request, each with its number: from the one after the cursor of the run at the
beginning to the cursor that the run came to. -/
theorem stream_tells_run (hbrief : app.team.Brief)
    (hclaims : ∀ thread run, (Run.claim app.team thread scene).1 = .ok (some run) →
      run.size < 2 ^ 64)
    (hstream : (order.serve app scene).1.contentType = some "text/event-stream") :
    ∃ undertaking, order.undertake app scene = .ok undertaking ∧
      let run := undertaking.run
      let outcome := (undertaking.drive app).1
      let transcript := (undertaking.transcribe app).2.2
      let told := run.recount transcript
      let trail := run.trail app.team undertaking.thread undertaking.scene.outside
      let frames := Frame.readAll (order.serve app scene).1.body
      undertaking.transcribe app = (outcome, (undertaking.drive app).2.outside, transcript) ∧
        (∀ reply ∈ run.replies transcript, reply.2.IsFor app.team reply.1 run.task.actor) ∧
        frames.map Frame.telling? =
          (told.map Telling.ofEvent ++ Telling.ofEnd undertaking.thread outcome).map some ∧
        (∀ frame ∈ frames.dropLast, frame.data ≠ doneMark ∧ frame.data ≠ errorMark) ∧
        told.filterMap Event.plan? = (run.planned trail).toList ∧
        told.filterMap Event.index? =
          (List.range' (run.cursor + 1) ((run.reached trail).cursor - run.cursor)).map Json.nat ∧
        ∀ final, outcome = .ok final → run.reached trail = final := by
  obtain ⟨undertaking, hundertaken, hwatched, hserved⟩ := undertaken_of_stream hstream
  refine ⟨undertaking, hundertaken, ?_⟩
  intro run outcome transcript told trail frames
  have htravels := @Journey.travels_complete _ app.team undertaking.thread undertaking.claimed
    undertaking.run { undertaking.scene with events := [] }
  obtain ⟨said, hdrives, hfor, hevents, htells⟩ :=
    htravels.tells hbrief (size_of_undertaken hclaims hundertaken) hwatched
  have htranscribed : undertaking.transcribe app =
      (outcome, (undertaking.drive app).2.outside, said) :=
    Undertaking.transcribe_of_drives (hdrives [])
  obtain rfl : transcript = said := congrArg (fun pair ↦ pair.2.2) htranscribed
  replace hevents : (undertaking.drive app).2.events = told := hevents
  obtain ⟨last, mark, hclosing, hname, hend⟩ :=
    telling?_closingFrames htells.failedStep undertaking.thread
  have hframes : frames = told.map Frame.ofEvent ++ [last, mark] := by
    rw [← hclosing, ← readAll_eventStream, ← hevents]
    simp only [frames, hserved, Undertaking.finish, present, hwatched]
    rfl
  have htold : ∀ event ∈ told, (Frame.ofEvent event).telling? = some (.ofEvent event) :=
    fun event hevent ↦ Frame.telling?_ofEvent (htells.counted event hevent)
  have htellings : frames.map Frame.telling? =
      (told.map Telling.ofEvent ++ Telling.ofEnd undertaking.thread outcome).map some := by
    rw [hframes, List.map_append, hend, List.map_append, List.map_map, List.map_map]
    exact congrArg (· ++ _) (List.map_congr_left htold)
  refine ⟨htranscribed, hfor, htellings, fun frame hframe ↦ ?_, htells.plans, htells.indexes,
    htells.final⟩
  have htelling : frame.telling? ∈ frames.map Frame.telling? :=
    List.mem_map_of_mem (List.dropLast_subset frames hframe)
  rw [htellings] at htelling
  obtain ⟨telling, -, htelling⟩ := List.mem_map.mp htelling
  refine Frame.data_ne_mark ?_ htelling.symm
  rw [hframes, List.dropLast_append_of_ne_nil (List.cons_ne_nil last [mark]), List.mem_append]
    at hframe
  rcases hframe with hshown | hlast
  · obtain ⟨event, -, rfl⟩ := List.mem_map.mp hshown
    cases event <;> rfl
  · obtain rfl : frame = last := by simpa using hlast
    exact hname

/-- A service without a vault. Its planner writes one text for every task, and its language model
and its solver say what they answer token by token. -/
def App.speaking (plan : String) (thought answer : List String) : App Unit where
  team :=
    { planner := fun _ ↦ .succeed plan
      oracle := fun _ outside ↦ (⟨.ok (String.join thought), thought, []⟩, outside)
      solver := fun _ outside ↦ (⟨.ok (String.join answer), answer, []⟩, outside)
      registry := {} }
  freshThread _ := ("t-0", ())

/-- A plan and tokens that look like the end of a stream. -/
theorem stream_tells_run_of_marks :
    let app := App.speaking "data: [DONE] #E1=LLM[\x7bx\x7d]" ["y", "es"]
      ["\"]\n\n", "data: [DONE]\r\n\r\n"]
    let served := (Order.create (runRequest "greet" "u-1" "t-1" true)).serve app { outside := () }
    (Frame.readAll served.1.body).map Frame.telling? =
      [Telling.plan [⟨"data: [DONE]", "#E1", "LLM", "\x7bx\x7d"⟩], .token "y", .token "es",
        .step (.obj [("index", .nat 1), ("title", .str "data: [DONE]"), ("operation", .str "LLM"),
          ("result", .str "\"yes\"")]),
        .token "\"]\n\n", .token "data: [DONE]\r\n\r\n",
        .answer "t-1" "\"]\n\ndata: [DONE]\r\n\r\n", .mark "[DONE]"].map some := by
  intro app served
  let text := "data: [DONE] #E1=LLM[\x7bx\x7d]"
  let answer := "\"]\n\ndata: [DONE]\r\n\r\n"
  let step : Step := ⟨"data: [DONE]", "#E1", "LLM", "\x7bx\x7d"⟩
  let plan : Plan := ⟨[step], text⟩
  let first : Run := .start ⟨"greet", "u-1", true⟩
  let planned : Run := { first with plan := some plan, stage := .tool }
  let stepped := planned.keepOutput plan step (Step.output (.str "yes"))
  let final : Run := { stepped with answer := some answer, stage := .done }
  have hparse : Plan.parse text = .ok plan := Plan.parse_of_toOption (by decide +kernel)
  have hbody : readBody RunRequest.decoder (runRequest "greet" "u-1" "t-1" true) =
      .ok ⟨"greet", "u-1", some "t-1", true⟩ := by decide +kernel
  have hundertaken : (Order.create (runRequest "greet" "u-1" "t-1" true)).undertake app
      { outside := () } = .ok ⟨"t-1", first, false, { outside := () }⟩ :=
    Order.undertake_create hbody (by decide +kernel) rfl
  have hstream : served.1.contentType = some "text/event-stream" := by
    simp only [served]
    rw [Order.serve_eq, hundertaken]
    rfl
  have hbrief : app.team.Brief := by
    rintro task outside text ⟨⟩
    decide
  obtain ⟨undertaking, hsame, hdriven, -, htold, -⟩ :=
    stream_tells_run hbrief (by rintro thread run ⟨⟩) hstream
  obtain rfl : _ = undertaking := Except.ok.inj (hundertaken.symm.trans hsame)
  have hplan : first.turn app.team () = (none, planned, ()) := Run.turn_start rfl hparse
  have hstep : planned.turn app.team () = (none, stepped, ()) := rfl
  have hsolve : stepped.turn app.team () = (none, final, ()) := rfl
  have hsolved : stepped.stage = .solve := by
    simp [stepped, planned, Run.keepOutput, plan, Plan.size]
  let transcript : List Utterance :=
    [] ++ (first.utterances app.team ()).map id ++ (planned.utterances app.team ()).map id ++
      (stepped.utterances app.team ()).map id
  have hdrives : first.Drives (app.team.transcribed id) "t-1" false ((), []) (.ok final)
      ((), transcript) :=
    .transcribed_onward id (by simp [first, Run.start]) hplan rfl
      (.transcribed_onward id (by simp [planned]) hstep rfl
        (.transcribed_onward id (by simp [hsolved]) hsolve rfl (.finished rfl)))
  let undertaking : Undertaking Unit := ⟨"t-1", first, false, { outside := () }⟩
  have htranscribed : undertaking.transcribe app = (.ok final, (), transcript) :=
    Undertaking.transcribe_of_drives hdrives
  have houtcome : (undertaking.drive app).1 = .ok final :=
    (congrArg Prod.fst (hdriven.symm.trans htranscribed) :)
  have hplanned : ∀ inquiry, Utterance.plan? ⟨inquiry, ⟨.ok (.str text), [], []⟩⟩ = some plan :=
    fun inquiry ↦ Utterance.plan?_of_parse inquiry rfl hparse
  have hrecount : first.recount transcript = .plan plan :: Step.recount 1 [step]
      ((planned.utterances app.team ()).map id ++ (stepped.utterances app.team ()).map id) := by
    change first.recount (⟨.plan first.task, ⟨.ok (.str text), [], []⟩⟩ ::
      ((planned.utterances app.team ()).map id ++ (stepped.utterances app.team ()).map id)) = _
    simp [Run.recount, Run.planIn, Run.stepsIn, first, Run.start, hplanned, plan]
  refine htold.trans ?_
  change ((first.recount (undertaking.transcribe app).2.2).map Telling.ofEvent ++
    Telling.ofEnd "t-1" (undertaking.drive app).1).map some = _
  rw [htranscribed, houtcome, hrecount]
  rfl

end Gateway

end Errand
