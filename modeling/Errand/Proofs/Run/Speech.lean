import Errand.Proofs.Consult
import Errand.Proofs.Run.Attempt
import Errand.Proofs.Run.Travelling

/-!
# What a run says aloud

The tokens that somebody who follows a run gets to see come from its solver, if nobody else in the
team says anything and the solver says what it answers (`Team.SpeaksAnswers`). Then the tokens of a
run that is driven to its end make up its answer (`Travels.says_answer`): its last transition is the
one that asks the solver, and no other transition shows a token (`advance_says`). A run that was
done before says nothing, whatever it answered, so it is left out.
-/

set_option autoImplicit false

namespace Errand

variable {σ α : Type}

/-- The text of a token. -/
def Event.token? : Event → Option String
  | .token text => some text
  | .plan _ | .step _ _ => none

/-- The text that the tokens among some events make up. -/
def Event.spoken (events : List Event) : String :=
  String.join (events.filterMap token?)

namespace Event

theorem spoken_append (events others : List Event) :
    spoken (events ++ others) = spoken events ++ spoken others := by
  rw [spoken, List.filterMap_append, String.join_append]
  rfl

theorem spoken_map_token (tokens : List String) :
    spoken (tokens.map Event.token) = String.join tokens := by
  rw [spoken, List.filterMap_map]
  exact congrArg String.join (List.filterMap_some)

end Event

/-- Whether nobody in a team says anything but the solver, who says what it answers. What the
planner and the vault say is not heard. -/
structure Team.SpeaksAnswers (team : Team σ) : Prop where
  oracle : ∀ prompt, (team.oracle prompt).Silent
  operation : ∀ operation ∈ team.registry.operations, ∀ value context,
    (operation.invoke value context).Silent
  solver : ∀ request outside answer, (team.solver request outside).1.outcome = .ok answer →
    String.join (team.solver request outside).1.tokens = answer

section Transitions

variable {team : Team σ} {run : Run} {scene : Scene σ}

/-- A silent call shows nothing. -/
theorem Scene.events_consult_silent {call : Consult σ α} (h : call.Silent) (watched : Bool)
    (scene : Scene σ) : (scene.consult watched call).2.events = scene.events := by
  rw [events_consult, h scene.outside]
  cases watched <;> exact List.append_nil _

/-- The call of a step is one of the language model or of a registered operation. -/
theorem Step.call_eq_ok {step : Step} {input : String} {context : Operation.Context}
    {call : Consult σ Json} (h : step.call team input context = .ok call) :
    call = Json.str <$> team.oracle input ∨
      ∃ operation ∈ team.registry.operations, ∃ parameters,
        call = unwrapContent <$> operation.invoke parameters context := by
  unfold Step.call at h
  split at h
  · cases h
    exact .inl rfl
  · split at h
    · cases h
    · next operation hget =>
      split at h
      · cases h
      · next parameters _ =>
        cases h
        exact .inr ⟨operation, List.mem_of_find?_eq_some hget, parameters, rfl⟩

theorem Step.silent_call (hteam : team.SpeaksAnswers) {step : Step} {input : String}
    {context : Operation.Context} {call : Consult σ Json}
    (h : step.call team input context = .ok call) : call.Silent := by
  rcases Step.call_eq_ok h with rfl | ⟨operation, hmem, parameters, rfl⟩
  · exact (hteam.oracle input).map _
  · exact (hteam.operation operation hmem parameters context).map _

/-- A step is carried out in silence. -/
theorem Step.events_dispatch (hteam : team.SpeaksAnswers) (step : Step)
    (context : Operation.Context) (watched : Bool) (results : Results) (scene : Scene σ) :
    (step.dispatch team context watched results scene).2.2.events = scene.events := by
  unfold Step.dispatch
  cases hcall : step.call team (results.resolve step.template) context with
  | error fault => rfl
  | ok call =>
    have hevents := Scene.events_consult_silent (Step.silent_call hteam hcall) watched scene
    rcases hconsult : scene.consult watched call with ⟨fault | value, after⟩ <;>
      simpa only [hconsult] using hevents

namespace Run

/-- Having a plan written says nothing; only the plan is shown. -/
theorem advancePlan_says_nothing (hwatched : run.task.watched = true)
    (hfault : (run.advancePlan team scene).fault = none) :
    ∃ shown, (run.advancePlan team scene).scene.events = scene.events ++ shown ∧
      Event.spoken shown = "" := by
  have hevents := Scene.events_consult_unwatched (team.planner run.task) scene
  unfold advancePlan at hfault ⊢
  rcases hconsult : scene.consult false (team.planner run.task) with ⟨fault | text, after⟩
  · simp [hconsult] at hfault
  · simp only [hconsult] at hevents hfault ⊢
    cases hparse : Plan.parse text with
    | error fault => simp [hparse] at hfault
    | ok plan =>
      refine ⟨[.plan plan], ?_, rfl⟩
      rw [hwatched, Scene.events_emit, hevents]

/-- Carrying out a step says nothing; only the step is shown. -/
theorem advanceTool_says_nothing (hteam : team.SpeaksAnswers) (hwatched : run.task.watched = true)
    (hfault : (run.advanceTool team scene).fault = none) :
    ∃ shown, (run.advanceTool team scene).scene.events = scene.events ++ shown ∧
      Event.spoken shown = "" := by
  unfold advanceTool at hfault ⊢
  cases hstep : run.currentStep with
  | error fault => simp [hstep] at hfault
  | ok step =>
    have hevents := Step.events_dispatch hteam step { actor := run.task.actor } run.task.watched
      run.results scene
    simp only [hstep] at hfault ⊢
    rcases hdispatch : step.dispatch team { actor := run.task.actor } run.task.watched run.results
      scene with ⟨fault | output, results, after⟩
    · simp [hdispatch] at hfault
    · simp only [hdispatch] at hevents ⊢
      refine ⟨[.step step.id (Event.stepPayload (run.cursor + 1) step output)], ?_, rfl⟩
      split <;> rw [hwatched, Scene.events_emit, Scene.events_report, hevents]

/-- A transition that does not ask the solver says nothing. -/
theorem advance_says_nothing (hteam : team.SpeaksAnswers) (hstage : run.stage ≠ .solve)
    (hwatched : run.task.watched = true) (hfault : (run.advance team scene).fault = none) :
    ∃ shown, (run.advance team scene).scene.events = scene.events ++ shown ∧
      Event.spoken shown = "" := by
  unfold advance at hfault ⊢
  cases hrun : run.stage with
  | plan =>
    rw [hrun] at hfault
    exact advancePlan_says_nothing hwatched hfault
  | tool =>
    rw [hrun] at hfault
    exact advanceTool_says_nothing hteam hwatched hfault
  | solve => exact absurd hrun hstage
  | done => simp [hrun] at hfault

/-- The transition that asks the solver says the answer, and the run is done. -/
theorem advance_says_answer (hteam : team.SpeaksAnswers) (hstage : run.stage = .solve)
    (hwatched : run.task.watched = true) (hfault : (run.advance team scene).fault = none) :
    ∃ answer shown,
      (run.advance team scene).run = { run with answer := some answer, stage := .done } ∧
      (run.advance team scene).scene.events = scene.events ++ shown ∧
      Event.spoken shown = answer := by
  rw [advance, hstage] at hfault ⊢
  simp only [advanceSolve] at hfault ⊢
  cases hplan : run.plan with
  | none => simp [hplan] at hfault
  | some plan =>
    let request := SolverRequest.build run.task.instruction plan run.results team.solverInput
    have hevents := Scene.events_consult run.task.watched (team.solver request) scene
    rcases hconsult : scene.consult run.task.watched (team.solver request) with
      ⟨fault | answer, after⟩
    · simp [hplan, request, hconsult] at hfault
    · have hanswer := congrArg Prod.fst hconsult
      rw [Scene.outcome_consult] at hanswer
      rw [hconsult, hwatched] at hevents
      refine ⟨answer, (team.solver request scene.outside).1.tokens.map Event.token, ?_, ?_, ?_⟩
      · simp [request, hconsult]
      · simpa [request, hconsult] using hevents
      · rw [Event.spoken_map_token]
        exact hteam.solver request scene.outside answer hanswer

/-- Only the transition that asks the solver ends a run. -/
theorem stage_advance_ne_done (hstage : run.stage ≠ .solve)
    (hfault : (run.advance team scene).fault = none) :
    (run.advance team scene).run.stage ≠ .done ∧
      (run.advance team scene).run.task = run.task := by
  obtain ⟨value, hsettles⟩ := settles_of_turn (turn_of_advance hfault)
  generalize (run.advance team scene).run = next at hsettles
  cases hsettles with
  | planned plan _ _ => simp
  | stepped plan step _ _ _ =>
    refine ⟨?_, rfl⟩
    simp only [keepOutput]
    split <;> simp
  | solved hsolve => exact absurd hsolve hstage

end Run

end Transitions

/-- A run that is driven to its end says its answer. -/
theorem Run.Travels.says_answer {team : Team σ} {thread : String} {claimed : Bool} {run final : Run}
    {scene after : Scene σ} {outcome : Except RunFault Run} (hteam : team.SpeaksAnswers)
    (h : run.Travels team thread claimed scene outcome after) (hdone : run.stage ≠ .done)
    (hwatched : run.task.watched = true) (hfinal : outcome = .ok final) :
    ∃ answer shown, final.answer = some answer ∧ after.events = scene.events ++ shown ∧
      Event.spoken shown = answer := by
  induction h with
  | finished hend => exact absurd hend hdone
  | stopped => cases hfinal
  | lost => cases hfinal
  | @onward run scene kept after outcome _ hfault hrecord hrest ih =>
    have hkept := Journey.events_record team thread (run.advance team scene).run
      (run.advance team scene).scene
    rw [hrecord] at hkept
    by_cases hstage : run.stage = .solve
    · obtain ⟨answer, shown, hrun, hevents, hsays⟩ :=
        advance_says_answer hteam hstage hwatched hfault
      rw [hrun] at hrest
      cases hrest with
      | finished _ =>
        cases hfinal
        exact ⟨answer, shown, rfl, hkept.trans hevents, hsays⟩
      | stopped hnot | lost hnot | onward hnot => exact absurd rfl hnot
    · obtain ⟨shown, hevents, hsilent⟩ := advance_says_nothing hteam hstage hwatched hfault
      obtain ⟨hnext, htask⟩ := stage_advance_ne_done hstage hfault
      obtain ⟨answer, more, hanswer, hafter, hsays⟩ := ih hnext (htask ▸ hwatched) hfinal
      refine ⟨answer, shown ++ more, hanswer, ?_, ?_⟩
      · rw [hafter, hkept, hevents, List.append_assoc]
      · rw [Event.spoken_append, hsilent, hsays, String.empty_append]

end Errand
