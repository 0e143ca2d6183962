import Mathlib
import Errand.Run.Drive

/-!
# One inquiry for each transition

A transition asks one collaborator, once, or it asks nobody. `Run.inquiry` is what a run asks next,
or the fault that keeps it from asking; `Team.ask` is the answer of the team. `Run.settle` is what
an answer makes of the run, and `Run.blame` the fault that a refusal comes to. `advance_eq_turn`
says that this is all: the fault of a transition, the run after it and the state of everything
outside after it are those of `Run.turn`. What a transition shows and reports besides is left to its
scene.

`advance_run_of_fault` is a consequence. A transition that fails leaves the whole run as it was,
also where the parts of the run did not fit together before.
-/

set_option autoImplicit false

namespace Errand

variable {σ α β : Type}

/-! ### Calls and scenes -/

/-- A reply with something else in the place of its value. -/
def Reply.map (f : α → β) (reply : Reply α) : Reply β where
  outcome := reply.outcome.map f
  tokens := reply.tokens
  samples := reply.samples

namespace Consult

theorem map_apply (f : α → β) (call : Consult σ α) (outside : σ) :
    (f <$> call) outside = ((call outside).1.map f, (call outside).2) := by
  change andThen call (fun a ↦ succeed (f a)) outside = _
  rcases hcall : call outside with ⟨⟨outcome, tokens, samples⟩, after⟩
  cases outcome <;> simp [andThen, hcall, succeed, answer, Reply.map, Except.map]

@[simp] theorem outcome_map (f : α → β) (call : Consult σ α) (outside : σ) :
    ((f <$> call) outside).1.outcome = (call outside).1.outcome.map f := by
  rw [map_apply]
  rfl

@[simp] theorem outside_map (f : α → β) (call : Consult σ α) (outside : σ) :
    ((f <$> call) outside).2 = (call outside).2 := by
  rw [map_apply]

end Consult

namespace Scene

@[simp] theorem outcome_consult (watched : Bool) (call : Consult σ α) (scene : Scene σ) :
    (scene.consult watched call).1 = (call scene.outside).1.outcome := rfl

@[simp] theorem outside_consult (watched : Bool) (call : Consult σ α) (scene : Scene σ) :
    (scene.consult watched call).2.outside = (call scene.outside).2 := rfl

@[simp] theorem outside_emit (watched : Bool) (event : Event) (scene : Scene σ) :
    (scene.emit watched event).outside = scene.outside := by
  unfold emit
  split <;> rfl

@[simp] theorem outside_report (sample : Metrics.Sample) (scene : Scene σ) :
    (scene.report sample).outside = scene.outside := rfl

end Scene

/-! ### Inquiries -/

/-- What a run asks of a collaborator. -/
inductive Inquiry
  /-- A plan for a task. -/
  | plan (task : Task)
  /-- What the language model says to a prompt. -/
  | prompt (text : String)
  /-- To carry out a registered operation. -/
  | operation (name : String) (parameters : Json) (context : Operation.Context)
  /-- An answer made of a result. -/
  | answer (request : SolverRequest)

/-- The answer of a team. A text that is an answer is a value too. An operation that nobody has
registered is not found; no run asks for one. -/
def Team.ask (team : Team σ) : Inquiry → Consult σ Json
  | .plan task => Json.str <$> team.planner task
  | .prompt text => Json.str <$> team.oracle text
  | .operation name parameters context =>
    match team.registry.get? name with
    | none => .fail (.notFound name)
    | some operation => operation.invoke parameters context
  | .answer request => Json.str <$> team.solver request

/-- What a step asks, given its input, or the fault that keeps it from asking. -/
def Step.inquiry (registry : Registry σ) (step : Step) (input : String)
    (context : Operation.Context) : Except StepFault Inquiry :=
  if step.operation = modelName then .ok (.prompt input)
  else if registry.contains step.operation then
    match Json.parse input with
    | .error _ => .error (.malformedParameters step.operation input)
    | .ok parameters => .ok (.operation step.operation parameters context)
  else .error (.unknownOperation step.operation)

/-- What is kept of an answer to a step. -/
def Step.output (value : Json) : String :=
  (unwrapContent value).pretty

/-- An operation is registered if and only if it is found under its name. -/
theorem Registry.contains_eq_isSome (registry : Registry σ) (name : String) :
    registry.contains name = (registry.get? name).isSome := by
  rw [Bool.eq_iff_iff]
  simp [Registry.contains, Registry.get?]

/-- A step that may not ask fails at once. -/
theorem Step.dispatch_of_refused {team : Team σ} {step : Step} {context : Operation.Context}
    {results : Results} {fault : StepFault} (watched : Bool) (scene : Scene σ)
    (h : step.inquiry team.registry (results.resolve step.template) context = .error fault) :
    step.dispatch team context watched results scene = (.error fault, results, scene) := by
  have hcall : step.call team (results.resolve step.template) context = .error fault := by
    unfold Step.inquiry at h
    unfold Step.call
    split at h
    · cases h
    · next hmodel =>
      rw [Registry.contains_eq_isSome] at h
      cases hget : team.registry.get? step.operation with
      | none => simp_all
      | some operation =>
        cases hparse : Json.parse (results.resolve step.template) <;> simp_all
  rw [Step.dispatch, hcall]

/-- The call of a step that asks is its inquiry; of the value, what counts is taken. -/
theorem Step.call_of_asked {team : Team σ} {step : Step} {input : String}
    {context : Operation.Context} {inquiry : Inquiry}
    (h : step.inquiry team.registry input context = .ok inquiry) :
    ∃ call, step.call team input context = .ok call ∧ ∀ outside, call outside =
      ((team.ask inquiry outside).1.map unwrapContent, (team.ask inquiry outside).2) := by
  unfold Step.inquiry at h
  unfold Step.call
  split at h
  · next hmodel =>
    cases h
    refine ⟨_, if_pos hmodel, fun outside ↦ ?_⟩
    simp only [Team.ask, Consult.map_apply]
    cases houtcome : (team.oracle input outside).1.outcome <;> simp [Reply.map, houtcome] <;> rfl
  · next hmodel =>
    rw [Registry.contains_eq_isSome] at h
    cases hget : team.registry.get? step.operation with
    | none => simp_all
    | some operation =>
      cases hparse : Json.parse input with
      | error flaw => simp_all
      | ok parameters =>
        simp only [hget, hparse, Option.isSome_some, if_true] at h
        cases h
        exact ⟨_, by rw [if_neg hmodel], fun outside ↦ by simp [Team.ask, hget, Consult.map_apply]⟩

/-- A step that asks succeeds if and only if it is answered, and keeps nothing otherwise. Its scene
is that of the inquiry. -/
theorem Step.dispatch_of_asked {team : Team σ} {step : Step} {context : Operation.Context}
    {results : Results} {inquiry : Inquiry} (watched : Bool) (scene : Scene σ)
    (h : step.inquiry team.registry (results.resolve step.template) context = .ok inquiry) :
    step.dispatch team context watched results scene =
      match (team.ask inquiry scene.outside).1.outcome with
      | .error fault => (.error (.failed step.operation fault), results,
          (scene.consult watched (team.ask inquiry)).2)
      | .ok value => (.ok (Step.output value), results.insert step.id (Step.output value),
          (scene.consult watched (team.ask inquiry)).2) := by
  obtain ⟨call, hcall, heffect⟩ := Step.call_of_asked h
  have hconsult : scene.consult watched call =
      ((team.ask inquiry scene.outside).1.outcome.map unwrapContent,
        (scene.consult watched (team.ask inquiry)).2) := by
    simp only [Scene.consult, heffect]
    rfl
  simp only [Step.dispatch, hcall, hconsult]
  cases (team.ask inquiry scene.outside).1.outcome <;> rfl

namespace Run

/-- What a run asks next, or the fault that keeps it from asking. -/
def inquiry (team : Team σ) (run : Run) : Except RunFault Inquiry :=
  match run.stage with
  | .plan => .ok (.plan run.task)
  | .tool =>
    match run.currentStep with
    | .error fault => .error fault
    | .ok step =>
      (step.inquiry team.registry (run.results.resolve step.template)
        { actor := run.task.actor }).mapError (.step (run.cursor + 1) step.id)
  | .solve =>
    match run.plan with
    | none => .error (.routing "Solve stage entered without a plan")
    | some plan =>
      .ok (.answer (SolverRequest.build run.task.instruction plan run.results team.solverInput))
  | .done => .error (.routing "Run already finished")

/-- The fault of a run whose inquiry was refused. -/
def blame (run : Run) (fault : Fault) : RunFault :=
  match run.stage with
  | .plan => .planning fault
  | .tool =>
    match run.currentStep with
    | .error routing => routing
    | .ok step => .step (run.cursor + 1) step.id (.failed step.operation fault)
  | .solve => .solver fault
  | .done => .routing "Run already finished"

/-- A run after its current step has given an output. -/
def keepOutput (run : Run) (plan : Plan) (step : Step) (output : String) : Run :=
  { run with
    results := run.results.insert step.id output
    cursor := run.cursor + 1
    stage := if plan.size ≤ run.cursor + 1 then .solve else .tool }

/-- A run after its inquiry has been answered. -/
def settle (run : Run) (value : Json) : Except RunFault Run :=
  match run.stage with
  | .plan =>
    match Plan.parse (value.str?.getD "") with
    | .error fault => .error (.planText fault.message)
    | .ok plan => .ok { run with plan := some plan, stage := .tool }
  | .tool =>
    match run.plan, run.currentStep with
    | some plan, .ok step => .ok (run.keepOutput plan step (Step.output value))
    | none, _ => .error (.routing "Tool stage entered without plan steps")
    | _, .error fault => .error fault
  | .solve => .ok { run with answer := some (value.str?.getD ""), stage := .done }
  | .done => .error (.routing "Run already finished")

/-- A transition as one inquiry: its fault, the run afterwards and everything outside afterwards. -/
def turn (team : Team σ) (run : Run) (outside : σ) : Option RunFault × Run × σ :=
  match run.inquiry team with
  | .error fault => (some fault, run, outside)
  | .ok inquiry =>
    match (team.ask inquiry outside).1.outcome with
    | .error fault => (some (run.blame fault), run, (team.ask inquiry outside).2)
    | .ok value =>
      match run.settle value with
      | .error fault => (some fault, run, (team.ask inquiry outside).2)
      | .ok next => (none, next, (team.ask inquiry outside).2)

/-! ### A transition is one inquiry -/

theorem turn_of_silent {team : Team σ} {run : Run} {fault : RunFault} (outside : σ)
    (h : run.inquiry team = .error fault) :
    run.turn team outside = (some fault, run, outside) := by
  rw [turn, h]

theorem turn_of_asked {team : Team σ} {run : Run} {inquiry : Inquiry} (outside : σ)
    (h : run.inquiry team = .ok inquiry) :
    run.turn team outside =
      match (team.ask inquiry outside).1.outcome with
      | .error fault => (some (run.blame fault), run, (team.ask inquiry outside).2)
      | .ok value =>
        match run.settle value with
        | .error fault => (some fault, run, (team.ask inquiry outside).2)
        | .ok next => (none, next, (team.ask inquiry outside).2) := by
  rw [turn, h]

theorem inquiry_plan {run : Run} (team : Team σ) (hstage : run.stage = .plan) :
    run.inquiry team = .ok (.plan run.task) := by
  rw [inquiry, hstage]

theorem inquiry_tool {run : Run} {step : Step} (team : Team σ) (hstage : run.stage = .tool)
    (hstep : run.currentStep = .ok step) :
    run.inquiry team =
      (step.inquiry team.registry (run.results.resolve step.template)
        { actor := run.task.actor }).mapError (.step (run.cursor + 1) step.id) := by
  rw [inquiry, hstage]
  simp only [hstep]

theorem inquiry_solve {run : Run} {plan : Plan} (team : Team σ) (hstage : run.stage = .solve)
    (hplan : run.plan = some plan) :
    run.inquiry team = .ok (.answer
      (SolverRequest.build run.task.instruction plan run.results team.solverInput)) := by
  rw [inquiry, hstage]
  simp only [hplan]

/-- What a run asks, stage by stage. -/
inductive Asks (team : Team σ) (run : Run) : Inquiry → Prop
  /-- A plan for the task. -/
  | plan (hstage : run.stage = .plan) : Asks team run (.plan run.task)
  /-- What the step at the cursor asks. -/
  | step (step : Step) {inquiry : Inquiry} (hstage : run.stage = .tool)
      (hstep : run.currentStep = .ok step)
      (hask : step.inquiry team.registry (run.results.resolve step.template)
        { actor := run.task.actor } = .ok inquiry) :
      Asks team run inquiry
  /-- An answer to the task. -/
  | answer (plan : Plan) (hstage : run.stage = .solve) (hplan : run.plan = some plan) :
      Asks team run (.answer
        (SolverRequest.build run.task.instruction plan run.results team.solverInput))

theorem asks_of_inquiry {team : Team σ} {run : Run} {inquiry : Inquiry}
    (h : run.inquiry team = .ok inquiry) : run.Asks team inquiry := by
  cases hstage : run.stage with
  | plan =>
    rw [inquiry_plan team hstage] at h
    cases h
    exact .plan hstage
  | tool =>
    cases hstep : run.currentStep with
    | error fault => simp [Run.inquiry, hstage, hstep] at h
    | ok step =>
      rw [inquiry_tool team hstage hstep] at h
      refine .step step hstage hstep ?_
      cases hask : step.inquiry team.registry (run.results.resolve step.template)
          { actor := run.task.actor } with
      | error fault => simp [hask, Except.mapError] at h
      | ok asked => simpa [hask, Except.mapError] using h
  | solve =>
    cases hplan : run.plan with
    | none => simp [Run.inquiry, hstage, hplan] at h
    | some plan =>
      rw [inquiry_solve team hstage hplan] at h
      cases h
      exact .answer plan hstage hplan
  | done => simp [Run.inquiry, hstage] at h

theorem blame_tool {run : Run} {step : Step} (fault : Fault) (hstage : run.stage = .tool)
    (hstep : run.currentStep = .ok step) :
    run.blame fault = .step (run.cursor + 1) step.id (.failed step.operation fault) := by
  rw [blame, hstage]
  simp only [hstep]

theorem settle_plan {run : Run} (text : String) (hstage : run.stage = .plan) :
    run.settle (.str text) =
      match Plan.parse text with
      | .error fault => .error (.planText fault.message)
      | .ok plan => .ok { run with plan := some plan, stage := .tool } := by
  rw [settle, hstage]
  rfl

theorem settle_tool {run : Run} {plan : Plan} {step : Step} (value : Json)
    (hstage : run.stage = .tool) (hplan : run.plan = some plan)
    (hstep : run.currentStep = .ok step) :
    run.settle value = .ok (run.keepOutput plan step (Step.output value)) := by
  rw [settle, hstage]
  simp only [hplan, hstep]

theorem settle_solve {run : Run} (text : String) (hstage : run.stage = .solve) :
    run.settle (.str text) = .ok { run with answer := some text, stage := .done } := by
  rw [settle, hstage]
  rfl

/-- The first transition of a task whose planner writes a plan. -/
theorem turn_start {team : Team σ} {task : Task} {outside : σ} {text : String} {plan : Plan}
    (htext : (team.planner task outside).1.outcome = .ok text)
    (hparse : Plan.parse text = .ok plan) :
    (start task).turn team outside =
      (none, { start task with plan := some plan, stage := .tool },
        (team.ask (.plan task) outside).2) := by
  have hask : (team.ask (.plan task) outside).1.outcome = .ok (.str text) := by
    simp [Team.ask, htext, Except.map]
  rw [turn_of_asked outside (inquiry_plan team rfl)]
  change (match (team.ask (.plan task) outside).1.outcome with
    | .error fault => _
    | .ok value => _) = _
  rw [hask]
  simp only [settle_plan text (show (start task).stage = .plan from rfl), hparse]
  rfl

/-- A step of the plan at the cursor is the current step. -/
theorem currentStep_eq_of_getElem? {run : Run} {plan : Plan} {step : Step}
    (hplan : run.plan = some plan) (hstep : plan.steps[run.cursor]? = some step) :
    run.currentStep = .ok step := by
  have hnonempty : plan.steps ≠ [] := by
    rintro hnil
    simp [hnil] at hstep
  have hfilter : run.plan.filter (fun plan ↦ !plan.steps.isEmpty) = some plan := by
    simp [hplan, Option.filter, hnonempty]
  rw [currentStep, hfilter]
  simp only [hstep]

/-- Carrying out a step is one inquiry. The current step stands in a plan, so the stage after it is
always known, and nothing can fail once the output has been kept. -/
theorem advanceTool_eq_turn {run : Run} {step : Step} (team : Team σ) (scene : Scene σ)
    (hstage : run.stage = .tool) (hstep : run.currentStep = .ok step) :
    ((run.advanceTool team scene).fault, (run.advanceTool team scene).run,
      (run.advanceTool team scene).scene.outside) = run.turn team scene.outside := by
  obtain ⟨plan, hplan, -⟩ := currentStep_eq_ok hstep
  have hinquiry := inquiry_tool team hstage hstep
  cases hask : step.inquiry team.registry (run.results.resolve step.template)
      { actor := run.task.actor } with
  | error fault =>
    rw [hask] at hinquiry
    rw [turn_of_silent _ hinquiry]
    simp [advanceTool, hstep, Step.dispatch_of_refused run.task.watched scene hask]
  | ok inquiry =>
    rw [hask] at hinquiry
    rw [turn_of_asked _ hinquiry]
    have hasked := Step.dispatch_of_asked run.task.watched scene hask
    cases hreply : (team.ask inquiry scene.outside).1.outcome with
    | error fault =>
      rw [hreply] at hasked
      simp [advanceTool, hstep, hasked, blame_tool fault hstage hstep]
    | ok value =>
      rw [hreply] at hasked
      simp [advanceTool, hstep, hasked, settle_tool value hstage hplan hstep, stageAfterTool, hplan,
        keepOutput]

/-- The fault of a transition, the run after it and everything outside after it come of the one
inquiry of the run. -/
theorem advance_eq_turn (team : Team σ) (run : Run) (scene : Scene σ) :
    ((run.advance team scene).fault, (run.advance team scene).run,
      (run.advance team scene).scene.outside) = run.turn team scene.outside := by
  rw [advance]
  cases hstage : run.stage with
  | plan =>
    rw [turn_of_asked _ (inquiry_plan team hstage)]
    rcases hconsult : scene.consult false (team.planner run.task) with ⟨outcome, after⟩
    have houtcome := congrArg Prod.fst hconsult
    have hafter := congrArg (fun pair ↦ pair.2.outside) hconsult
    simp only [Scene.outcome_consult, Scene.outside_consult] at houtcome hafter
    simp only [advancePlan, hconsult, Team.ask, Consult.outcome_map, Consult.outside_map, houtcome,
      hafter]
    cases outcome with
    | error fault => simp [Except.map, blame, hstage]
    | ok text =>
      simp only [Except.map, settle_plan text hstage]
      cases Plan.parse text <;> simp
  | tool =>
    cases hstep : run.currentStep with
    | error fault =>
      have hinquiry : run.inquiry team = .error fault := by
        rw [inquiry, hstage]
        simp only [hstep]
      rw [turn_of_silent _ hinquiry]
      simp [advanceTool, hstep]
    | ok step => exact advanceTool_eq_turn team scene hstage hstep
  | solve =>
    cases hplan : run.plan with
    | none =>
      have hinquiry :
          run.inquiry team = .error (.routing "Solve stage entered without a plan") := by
        rw [inquiry, hstage]
        simp only [hplan]
      rw [turn_of_silent _ hinquiry]
      simp [advanceSolve, hplan]
    | some plan =>
      rw [turn_of_asked _ (inquiry_solve team hstage hplan)]
      rcases hconsult : scene.consult run.task.watched (team.solver
          (SolverRequest.build run.task.instruction plan run.results team.solverInput)) with
        ⟨outcome, after⟩
      have houtcome := congrArg Prod.fst hconsult
      have hafter := congrArg (fun pair ↦ pair.2.outside) hconsult
      simp only [Scene.outcome_consult, Scene.outside_consult] at houtcome hafter
      simp only [advanceSolve, hplan, hconsult, Team.ask, Consult.outcome_map,
        Consult.outside_map, houtcome, hafter]
      cases outcome with
      | error fault => simp [Except.map, blame, hstage]
      | ok text => simp [Except.map, settle_solve text hstage, hplan]
  | done =>
    have hinquiry : run.inquiry team = .error (.routing "Run already finished") := by
      rw [inquiry, hstage]
    rw [turn_of_silent _ hinquiry]

theorem fault_advance (team : Team σ) (run : Run) (scene : Scene σ) :
    (run.advance team scene).fault = (run.turn team scene.outside).1 :=
  congrArg Prod.fst (advance_eq_turn team run scene)

theorem run_advance (team : Team σ) (run : Run) (scene : Scene σ) :
    (run.advance team scene).run = (run.turn team scene.outside).2.1 :=
  congrArg (fun turn ↦ turn.2.1) (advance_eq_turn team run scene)

theorem turn_of_advance {team : Team σ} {run : Run} {scene : Scene σ} {fault : Option RunFault}
    (h : (run.advance team scene).fault = fault) :
    run.turn team scene.outside =
      (fault, (run.advance team scene).run, (run.advance team scene).scene.outside) := by
  rw [← h, advance_eq_turn]

/-! ### What a transition does to the run -/

/-- A transition that fails leaves the run as it was. -/
theorem run_turn_of_fault {team : Team σ} {run : Run} {outside : σ} {fault : RunFault}
    (h : (run.turn team outside).1 = some fault) : (run.turn team outside).2.1 = run := by
  cases hinquiry : run.inquiry team with
  | error fault => rw [turn_of_silent _ hinquiry]
  | ok inquiry =>
    rw [turn_of_asked _ hinquiry] at h ⊢
    cases hreply : (team.ask inquiry outside).1.outcome with
    | error fault => rfl
    | ok value =>
      simp only [hreply] at h ⊢
      cases hsettle : run.settle value with
      | error fault => rfl
      | ok next => simp [hsettle] at h

/-- A transition that succeeds was answered, and the answer made the next run. -/
theorem turn_of_success {team : Team σ} {run next : Run} {outside after : σ}
    (h : run.turn team outside = (none, next, after)) :
    ∃ inquiry value, run.inquiry team = .ok inquiry ∧
      (team.ask inquiry outside).1.outcome = .ok value ∧
      run.settle value = .ok next ∧ (team.ask inquiry outside).2 = after := by
  cases hinquiry : run.inquiry team with
  | error fault => simp [turn_of_silent _ hinquiry] at h
  | ok inquiry =>
    rw [turn_of_asked _ hinquiry] at h
    cases hreply : (team.ask inquiry outside).1.outcome with
    | error fault => simp [hreply] at h
    | ok value =>
      simp only [hreply] at h
      cases hsettle : run.settle value with
      | error fault => simp [hsettle] at h
      | ok settled =>
        simp only [hsettle] at h
        cases h
        exact ⟨inquiry, value, rfl, hreply, hsettle, rfl⟩

/-- What an answer makes of a run, stage by stage. -/
inductive Settles (run : Run) (value : Json) : Run → Prop
  /-- The answer was read as a plan. -/
  | planned (plan : Plan) (hstage : run.stage = .plan)
      (hparse : Plan.parse (value.str?.getD "") = .ok plan) :
      Settles run value { run with plan := some plan, stage := .tool }
  /-- The answer was kept as the output of the step at the cursor. -/
  | stepped (plan : Plan) (step : Step) (hstage : run.stage = .tool) (hplan : run.plan = some plan)
      (hstep : run.currentStep = .ok step) :
      Settles run value (run.keepOutput plan step (Step.output value))
  /-- The answer answers the task. -/
  | solved (hstage : run.stage = .solve) :
      Settles run value { run with answer := some (value.str?.getD ""), stage := .done }

theorem settles_of_settle {run next : Run} {value : Json} (h : run.settle value = .ok next) :
    Settles run value next := by
  cases hstage : run.stage with
  | plan =>
    simp only [settle, hstage] at h
    cases hparse : Plan.parse (value.str?.getD "") with
    | error fault => simp [hparse] at h
    | ok plan =>
      simp only [hparse] at h
      cases h
      exact .planned plan hstage hparse
  | tool =>
    cases hstep : run.currentStep with
    | error fault =>
      simp only [settle, hstage, hstep] at h
      split at h <;> simp_all
    | ok step =>
      obtain ⟨plan, hplan, -⟩ := currentStep_eq_ok hstep
      rw [settle_tool value hstage hplan hstep] at h
      cases h
      exact .stepped plan step hstage hplan hstep
  | solve =>
    rw [settle, hstage] at h
    cases h
    exact .solved hstage
  | done =>
    rw [settle, hstage] at h
    cases h

theorem settles_of_turn {team : Team σ} {run next : Run} {outside after : σ}
    (h : run.turn team outside = (none, next, after)) : ∃ value, Settles run value next := by
  obtain ⟨_, value, _, _, hsettle, _⟩ := turn_of_success h
  exact ⟨value, settles_of_settle hsettle⟩

/-- A transition that fails leaves the task, the stage, the plan, the results in their order, the
cursor and the answer as they were. The run need not be one that can be reached. -/
theorem advance_run_of_fault {team : Team σ} {run : Run} {scene : Scene σ} {fault : RunFault}
    (h : (run.advance team scene).fault = some fault) : (run.advance team scene).run = run := by
  rw [fault_advance] at h
  rw [run_advance]
  exact run_turn_of_fault h

end Run

/-- A team whose planner writes one text for every task, whose language model repeats the prompt,
and whose solver answers with the result it is given. -/
def Team.repeating (plan : String) : Team Unit where
  planner _ := .succeed plan
  oracle prompt := .succeed prompt
  solver request := .succeed (request.lastResult.getD "")
  registry := {}

/-- A team in which every collaborator refuses, and which knows one operation. -/
def Team.refusing (name : String) (fault : Fault) : Team Unit where
  planner _ := .fail fault
  oracle _ := .fail fault
  solver _ := .fail fault
  registry :=
    { operations := [{ info := ⟨name, "", .obj []⟩, invoke := fun _ _ ↦ .fail fault }] }

/-- A run whose parts do not fit together: an answer is there although a step is due, and a result
that no step of the plan can have given. Its step is refused, and the run stays as it is. -/
theorem Run.advance_run_of_fault_inconsistent :
    let run : Run :=
      { task := { instruction := "count", actor := "u-1" }
        stage := .tool
        plan := some ⟨[⟨"a", "#E1", "Count", "[#E7]"⟩], "raw"⟩
        results := Results.ofList [("#E7", "7"), ("", "3")]
        answer := some "early" }
    let transition := run.advance (Team.refusing "Count" (.internal "down")) { outside := () }
    transition.fault = some (.step 1 "#E1" (.failed "Count" (.internal "down"))) ∧
      transition.run = run := by
  have hfault : (Run.advance (Team.refusing "Count" (.internal "down"))
      { task := { instruction := "count", actor := "u-1" }
        stage := .tool
        plan := some ⟨[⟨"a", "#E1", "Count", "[#E7]"⟩], "raw"⟩
        results := Results.ofList [("#E7", "7"), ("", "3")]
        answer := some "early" } { outside := () }).fault =
      some (.step 1 "#E1" (.failed "Count" (.internal "down"))) := by
    decide +kernel
  exact ⟨hfault, advance_run_of_fault hfault⟩

end Errand
