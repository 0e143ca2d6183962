import Errand.Proofs.Run.Speech
import Errand.Proofs.Run.History

/-!
# What is counted of runs

The agent counts the runs that it drives and the steps that it dispatches. `Scene.ledger` is what
has been counted of them in a scene, in order. Nobody else counts there if every call of a team is
`Discreet`. Then `Travels.ledger` says what driving a run adds: one count for every step that was
dispatched, with how it ended, and after them one count for the run. Only a run that could not be
kept is not counted, although its steps are. `ledger_history` says what commissions add that are
carried out one after another.
-/

set_option autoImplicit false

namespace Errand

variable {σ α β : Type}

namespace Metrics

/-- Whether a sample counts runs or their steps. -/
def Sample.countsRuns (sample : Sample) : Bool :=
  sample.kind = .counter &&
    (sample.name = "workflow_runs_total" || sample.name = "workflow_steps_total")

end Metrics

/-! ### Calls that count nothing of runs -/

/-- Whether a call reports nothing that counts runs or their steps. -/
def Consult.Discreet (call : Consult σ α) : Prop :=
  ∀ outside, ∀ sample ∈ (call outside).1.samples, sample.countsRuns = false

namespace Consult

theorem discreet_answer (outcome : Except Fault α) : Discreet (answer (σ := σ) outcome) := by
  intro _ sample hsample
  cases hsample

theorem discreet_modify (change : σ → Except Fault α × σ) : Discreet (modify change) := by
  intro _ sample hsample
  cases hsample

theorem Discreet.bind {call : Consult σ α} {next : α → Consult σ β} (hcall : Discreet call)
    (hnext : ∀ a, Discreet (next a)) : Discreet (call >>= next) := by
  intro outside sample hsample
  rw [samples_bind, List.mem_append] at hsample
  rcases hsample with hfirst | hsecond
  · exact hcall outside sample hfirst
  · cases houtcome : (call outside).1.outcome with
    | error fault => simp [houtcome] at hsecond
    | ok a =>
      rw [houtcome] at hsecond
      exact hnext a _ sample hsecond

theorem Discreet.map {call : Consult σ α} (h : Discreet call) (f : α → β) :
    Discreet (f <$> call) :=
  h.bind fun a ↦ discreet_answer (.ok (f a))

end Consult

/-- Whether no call of a vault counts runs or their steps. -/
structure Vault.Discreet (vault : Vault σ) : Prop where
  save : ∀ thread run, (vault.save thread run).Discreet
  claim : ∀ thread, (vault.claim thread).Discreet
  release : ∀ thread, (vault.release thread).Discreet
  delete : ∀ thread, (vault.delete thread).Discreet

/-- Whether no collaborator counts runs or their steps. -/
structure Team.Discreet (team : Team σ) : Prop where
  planner : ∀ task, (team.planner task).Discreet
  oracle : ∀ prompt, (team.oracle prompt).Discreet
  operation : ∀ operation ∈ team.registry.operations, ∀ value context,
    (operation.invoke value context).Discreet
  solver : ∀ request, (team.solver request).Discreet
  vault : ∀ vault, team.vault = some vault → vault.Discreet

/-! ### What is counted -/

/-- A step that was dispatched, and what came of it. -/
structure Dispatch where
  /-- The step. -/
  step : Step
  /-- Its output, or why there was none. -/
  outcome : Except StepFault String

/-- A run that was driven to its end. -/
structure Drive where
  /-- The steps that were dispatched, in order. -/
  dispatches : List Dispatch
  /-- The run as it ended, or why it failed. -/
  outcome : Except RunFault Run

namespace Dispatch

/-- What is counted of a step. -/
def sample (dispatch : Dispatch) : Metrics.Sample :=
  Run.stepSample dispatch.step dispatch.outcome.isOk

end Dispatch

namespace Drive

/-- How a run that was driven to its end is counted, if it is: as a success or not. -/
def ending (drive : Drive) : Option Bool :=
  match drive.outcome with
  | .ok _ => some true
  | .error (.checkpoint _) => none
  | .error _ => some false

/-- What is counted of the end of a run. -/
def endSample (succeeded : Bool) : Metrics.Sample :=
  .count "workflow_runs_total" [("status", Metrics.status succeeded)]

/-- All that is counted of a run, in order. -/
def ledger (drive : Drive) : List Metrics.Sample :=
  drive.dispatches.map Dispatch.sample ++ drive.ending.toList.map endSample

theorem ending_of_fault {dispatches : List Dispatch} {fault : RunFault}
    (h : ∀ cause, fault ≠ .checkpoint cause) :
    ending ⟨dispatches, .error fault⟩ = some false := by
  cases fault with
  | checkpoint cause => exact absurd rfl (h cause)
  | planning | planText | step | solver | routing => rfl

end Drive

namespace Scene

/-- What has been counted of runs and their steps, in order. -/
def ledger (scene : Scene σ) : List Metrics.Sample :=
  scene.samples.filter (·.countsRuns)

@[simp] theorem ledger_emit (watched : Bool) (event : Event) (scene : Scene σ) :
    (scene.emit watched event).ledger = scene.ledger := by
  unfold emit
  split <;> rfl

theorem ledger_report {sample : Metrics.Sample} (h : sample.countsRuns = true)
    (scene : Scene σ) : (scene.report sample).ledger = scene.ledger ++ [sample] := by
  simp [ledger, report, List.filter_append, h]

theorem ledger_report_of_other {sample : Metrics.Sample} (h : sample.countsRuns = false)
    (scene : Scene σ) : (scene.report sample).ledger = scene.ledger := by
  simp [ledger, report, List.filter_append, h]

/-- A discreet call counts nothing. -/
theorem ledger_consult {call : Consult σ α} (h : call.Discreet) (watched : Bool)
    (scene : Scene σ) : (scene.consult watched call).2.ledger = scene.ledger := by
  have hnothing : (call scene.outside).1.samples.filter (·.countsRuns) = [] :=
    List.filter_eq_nil_iff.mpr fun sample hsample ↦ by simp [h scene.outside sample hsample]
  change (scene.samples ++ (call scene.outside).1.samples).filter _ = _
  rw [List.filter_append, hnothing, List.append_nil]
  rfl

end Scene

/-! ### Steps and transitions -/

section Transitions

variable {team : Team σ}

theorem Step.discreet_call (hteam : team.Discreet) {step : Step} {input : String}
    {context : Operation.Context} {call : Consult σ Json}
    (h : step.call team input context = .ok call) : call.Discreet := by
  rcases Step.call_eq_ok h with rfl | ⟨operation, hmem, parameters, rfl⟩
  · exact (hteam.oracle input).map _
  · exact (hteam.operation operation hmem parameters context).map _

/-- A step does not count itself. -/
theorem Step.ledger_dispatch (hteam : team.Discreet) (step : Step) (context : Operation.Context)
    (watched : Bool) (results : Results) (scene : Scene σ) :
    (step.dispatch team context watched results scene).2.2.ledger = scene.ledger := by
  unfold Step.dispatch
  cases hcall : step.call team (results.resolve step.template) context with
  | error fault => rfl
  | ok call =>
    have hledger := Scene.ledger_consult (Step.discreet_call hteam hcall) watched scene
    rcases hconsult : scene.consult watched call with ⟨fault | value, after⟩ <;>
      simpa only [hconsult] using hledger

/-- What comes of a step depends on everything outside only. -/
theorem Step.outcome_dispatch {step : Step} {context : Operation.Context} {watched : Bool}
    {results : Results} (scene : Scene σ) :
    (step.dispatch team context watched results scene).1 =
      (step.dispatch team context watched results { outside := scene.outside }).1 := by
  unfold Step.dispatch
  cases step.call team (results.resolve step.template) context with
  | error fault => rfl
  | ok call =>
    simp only [Scene.consult]
    cases (call scene.outside).1.outcome <;> rfl

namespace Run

/-- The step that a transition dispatches, if a step is due. -/
def dispatched (team : Team σ) (run : Run) (outside : σ) : List Dispatch :=
  match run.stage, run.currentStep with
  | .tool, .ok step =>
    [⟨step, (step.dispatch team { actor := run.task.actor } run.task.watched run.results
      { outside }).1⟩]
  | _, _ => []

theorem dispatched_of_stage {run : Run} (h : run.stage ≠ .tool) (outside : σ) :
    run.dispatched team outside = [] := by
  unfold dispatched
  split
  · next hstage _ => exact absurd hstage h
  · rfl

/-- A transition counts the step that it dispatches, and nothing else. -/
theorem ledger_advance (hteam : team.Discreet) (run : Run) (scene : Scene σ) :
    (run.advance team scene).scene.ledger =
      scene.ledger ++ (run.dispatched team scene.outside).map Dispatch.sample := by
  rw [advance]
  cases hstage : run.stage with
  | plan =>
    have hledger := Scene.ledger_consult (hteam.planner run.task) false scene
    rw [dispatched_of_stage (by simp [hstage]), List.map_nil, List.append_nil]
    simp only [advancePlan]
    rcases hconsult : scene.consult false (team.planner run.task) with ⟨fault | text, after⟩
    · simpa only [hconsult] using hledger
    · rw [hconsult] at hledger
      dsimp only
      cases Plan.parse text with
      | error fault => exact hledger
      | ok plan => exact (Scene.ledger_emit _ _ after).trans hledger
  | tool =>
    cases hstep : run.currentStep with
    | error fault => simp [advanceTool, dispatched, hstage, hstep]
    | ok step =>
      have hledger := Step.ledger_dispatch hteam step { actor := run.task.actor } run.task.watched
        run.results scene
      simp only [advanceTool, dispatched, hstage, hstep, ← Step.outcome_dispatch scene]
      rcases hdispatch : step.dispatch team { actor := run.task.actor } run.task.watched run.results
        scene with ⟨fault | output, results, after⟩
      · rw [hdispatch] at hledger
        rw [← hledger]
        exact Scene.ledger_report rfl after
      · rw [hdispatch] at hledger
        rw [← hledger]
        have hreport : (after.report (stepSample step true)).ledger =
            after.ledger ++ [stepSample step true] := Scene.ledger_report rfl after
        dsimp only
        split <;> exact (Scene.ledger_emit _ _ _).trans hreport
  | solve =>
    rw [dispatched_of_stage (by simp [hstage]), List.map_nil, List.append_nil]
    simp only [advanceSolve]
    cases run.plan with
    | none => rfl
    | some plan =>
      let request := SolverRequest.build run.task.instruction plan run.results team.solverInput
      have hledger := Scene.ledger_consult (hteam.solver request) run.task.watched scene
      dsimp only
      rcases hconsult : scene.consult run.task.watched (team.solver request) with
        ⟨fault | answer, after⟩ <;> simpa only [request, hconsult] using hledger
  | done => rw [dispatched_of_stage (by simp [hstage]), List.map_nil, List.append_nil]

end Run

end Transitions

/-! ### Driven runs -/

namespace Journey

variable {team : Team σ}

/-- The end of a run is counted once. -/
theorem ledger_reportEnd (succeeded : Bool) (scene : Scene σ) :
    (reportEnd succeeded scene).ledger = scene.ledger ++ [Drive.endSample succeeded] :=
  (Scene.ledger_report_of_other rfl _).trans (Scene.ledger_report rfl scene)

/-- Keeping a run counts nothing. -/
theorem ledger_record (hteam : team.Discreet) (thread : String) (run : Run) (scene : Scene σ) :
    (record team thread run scene).2.ledger = scene.ledger := by
  unfold record
  split
  · rfl
  · next vault hvault =>
    have hdiscreet := hteam.vault vault hvault
    split
    · exact Scene.ledger_consult (hdiscreet.delete thread) false scene
    · exact Scene.ledger_consult (hdiscreet.save thread run) false scene

/-- Giving back a claim counts nothing. -/
theorem ledger_leave (hteam : team.Discreet) (thread : String) (claimed : Bool)
    (scene : Scene σ) : (leave team thread claimed scene).ledger = scene.ledger := by
  unfold leave release
  split
  · split
    · rfl
    · next vault hvault =>
      exact Scene.ledger_consult ((hteam.vault vault hvault).release thread) false scene
  · rfl

end Journey

namespace Run

variable {team : Team σ} {thread : String} {run : Run} {scene : Scene σ}

/-- A run that has no current step is told why in terms of its parts. -/
theorem routing_of_currentStep {run : Run} {fault : RunFault} (h : run.currentStep = .error fault) :
    ∃ message, fault = .routing message := by
  unfold currentStep at h
  split at h
  · cases h
    exact ⟨_, rfl⟩
  · split at h
    · cases h
    · cases h
      exact ⟨_, rfl⟩

/-- No transition fails because the run could not be kept. -/
theorem fault_advance_ne_checkpoint (cause : Fault) :
    (run.advance team scene).fault ≠ some (.checkpoint cause) := by
  unfold advance
  split
  · unfold advancePlan
    split
    · simp
    · split <;> simp
  · cases hstep : run.currentStep with
    | error fault =>
      obtain ⟨message, rfl⟩ := routing_of_currentStep hstep
      simp [advanceTool, hstep]
    | ok step =>
      obtain ⟨plan, hplan, -⟩ := currentStep_eq_ok hstep
      simp only [advanceTool, hstep]
      split
      · simp
      · simp [stageAfterTool, hplan]
  · unfold advanceSolve
    split
    · simp
    · dsimp only
      split <;> simp
  · simp

/-- The steps that are dispatched while a run is driven to its end, in order. -/
def dispatches (team : Team σ) (thread : String) (run : Run) (outside : σ) : List Dispatch :=
  match _h : run.turn team outside with
  | (some _, _, _) => run.dispatched team outside
  | (none, next, between) =>
    run.dispatched team outside ++
      match team.keep thread next between with
      | (.error _, _) => []
      | (.ok _, after) => dispatches team thread next after
termination_by (run.stagesLeft, run.stepsLeft)
decreasing_by
  rcases closer_turn _h with hstages | ⟨hstages, hsteps⟩
  · exact .left _ _ hstages
  · rw [hstages]
    exact .right _ hsteps

section Dispatches

variable {next : Run} {outside between after : σ}

theorem dispatches_of_fault {fault : RunFault}
    (hturn : run.turn team outside = (some fault, next, between)) :
    run.dispatches team thread outside = run.dispatched team outside := by
  rw [dispatches]
  split <;> simp_all

/-- After a transition that succeeds, a run dispatches more only if it could be kept. -/
theorem dispatches_of_turn (hturn : run.turn team outside = (none, next, between)) :
    run.dispatches team thread outside = run.dispatched team outside ++
      match team.keep thread next between with
      | (.error _, _) => []
      | (.ok _, after) => next.dispatches team thread after := by
  rw [dispatches]
  split
  · simp_all
  · next hturn' =>
    obtain ⟨rfl, rfl⟩ : _ ∧ _ := by simpa [hturn] using hturn'
    rfl

theorem dispatches_of_keep (hturn : run.turn team outside = (none, next, between))
    (hkeep : team.keep thread next between = (.ok (), after)) :
    run.dispatches team thread outside =
      run.dispatched team outside ++ next.dispatches team thread after := by
  rw [dispatches_of_turn hturn, hkeep]

theorem dispatches_of_lost {fault : Fault} (hturn : run.turn team outside = (none, next, between))
    (hkeep : team.keep thread next between = (.error fault, after)) :
    run.dispatches team thread outside = run.dispatched team outside := by
  rw [dispatches_of_turn hturn, hkeep]
  exact List.append_nil _

/-- A run that is done dispatches nothing more. -/
theorem dispatches_of_done (hdone : run.stage = .done) :
    run.dispatches team thread outside = [] := by
  have hinquiry : run.inquiry team = .error (.routing "Run already finished") := by
    rw [inquiry, hdone]
  rw [dispatches_of_fault (turn_of_silent outside hinquiry),
    dispatched_of_stage (by simp [hdone])]

end Dispatches

/-- Driving a run to its end counts every step that is dispatched, and then the run itself, unless
it could not be kept. -/
theorem Travels.ledger {claimed : Bool} {outcome : Except RunFault Run} {after : Scene σ}
    (hteam : team.Discreet) (h : run.Travels team thread claimed scene outcome after) :
    after.ledger =
      scene.ledger ++ Drive.ledger ⟨run.dispatches team thread scene.outside, outcome⟩ := by
  unfold Drive.ledger
  induction h with
  | finished hdone =>
    rw [Journey.ledger_reportEnd, dispatches_of_done hdone]
    rfl
  | @stopped run scene fault hdone hfault =>
    have hcause (cause : Fault) : fault ≠ .checkpoint cause := by
      rintro rfl
      exact fault_advance_ne_checkpoint cause hfault
    rw [Journey.ledger_leave hteam, Journey.ledger_reportEnd, ledger_advance hteam,
      dispatches_of_fault (turn_of_advance hfault), Drive.ending_of_fault hcause, List.append_assoc]
    rfl
  | @lost run scene after fault hdone hfault hrecord =>
    have hkept := Journey.ledger_record hteam thread (run.advance team scene).run
      (run.advance team scene).scene
    rw [hrecord] at hkept
    rw [Journey.ledger_leave hteam, hkept, ledger_advance hteam,
      dispatches_of_lost (turn_of_advance hfault) (Journey.keep_of_record hrecord)]
    simp [Drive.ending]
  | @onward run scene kept after outcome hdone hfault hrecord _ ih =>
    have hkept := Journey.ledger_record hteam thread (run.advance team scene).run
      (run.advance team scene).scene
    rw [hrecord] at hkept
    rw [ih, hkept, ledger_advance hteam,
      dispatches_of_keep (turn_of_advance hfault) (Journey.keep_of_record hrecord), List.map_append]
    simp only [List.append_assoc, Drive.ending]

/-- A run that is driven to its end from a scene. -/
def driven (team : Team σ) (thread : String) (claimed : Bool) (run : Run) (scene : Scene σ) :
    Drive where
  dispatches := run.dispatches team thread scene.outside
  outcome := ((Journey.moving run claimed).complete team thread scene).1

theorem driven_of_drives {claimed : Bool} {outcome : Except RunFault Run} {after : σ}
    (h : run.Drives team thread claimed scene.outside outcome after) :
    run.driven team thread claimed scene =
      ⟨run.dispatches team thread scene.outside, outcome⟩ := by
  rw [driven, ((Journey.drives_complete run scene).unique h).1]

theorem ledger_complete (hteam : team.Discreet) (thread : String) (claimed : Bool) (run : Run)
    (scene : Scene σ) :
    ((Journey.moving run claimed).complete team thread scene).2.ledger =
      scene.ledger ++ (run.driven team thread claimed scene).ledger :=
  (Journey.travels_complete run scene).ledger hteam

end Run

/-! ### Commissions -/

namespace Commission

variable {team : Team σ}

/-- The run that a commission drives, if it drives one: a thread is resumed only if there is a run
and the claim to it is granted. -/
def drive? (team : Team σ) (commission : Commission) (scene : Scene σ) : Option Drive :=
  match commission with
  | .perform thread task => some ((Run.start task).driven team thread false scene)
  | .resume thread watched =>
    match Run.claim team thread scene with
    | (.ok (some run), after) => some ((run.watch watched).driven team thread true after)
    | _ => none

end Commission

/-- The runs that commissions drive, one after another. -/
def drives (team : Team σ) : List Commission → Scene σ → List Drive
  | [], _ => []
  | commission :: rest, scene =>
    (commission.drive? team scene).toList ++ drives team rest (commission.serve team scene).2

section Commissions

variable {team : Team σ}

/-- Claiming a run counts nothing. -/
theorem Run.ledger_claim (hteam : team.Discreet) (thread : String) (scene : Scene σ) :
    (claim team thread scene).2.ledger = scene.ledger := by
  unfold claim
  split
  · rfl
  · next vault hvault =>
    exact Scene.ledger_consult ((hteam.vault vault hvault).claim thread) false scene

theorem Commission.ledger_serve (hteam : team.Discreet) (commission : Commission)
    (scene : Scene σ) :
    (commission.serve team scene).2.ledger =
      scene.ledger ++ (commission.drive? team scene).toList.flatMap Drive.ledger := by
  cases commission with
  | perform thread task =>
    change ((Journey.moving (Run.start task) false).complete team thread scene).2.ledger = _
    rw [Run.ledger_complete hteam]
    simp [drive?]
  | resume thread watched =>
    have hclaim := Run.ledger_claim hteam thread scene
    simp only [serve, drive?, Run.resume]
    rcases hclaimed : Run.claim team thread scene with ⟨fault | run, after⟩
    · simpa [hclaimed] using hclaim
    · rw [hclaimed] at hclaim
      cases run with
      | none => simpa using hclaim
      | some run =>
        change ((Journey.moving (run.watch watched) true).complete team thread after).2.ledger = _
        rw [Run.ledger_complete hteam, hclaim]
        simp

/-- Commissions that are carried out one after another count what their runs come to. -/
theorem ledger_history (hteam : team.Discreet) (commissions : List Commission) (scene : Scene σ) :
    (history team commissions scene).2.ledger =
      scene.ledger ++ (drives team commissions scene).flatMap Drive.ledger := by
  induction commissions generalizing scene with
  | nil => simp [history, drives]
  | cons commission rest ih =>
    change (history team rest (commission.serve team scene).2).2.ledger = _
    rw [ih, commission.ledger_serve hteam, drives, List.flatMap_append, List.append_assoc]

end Commissions

end Errand
