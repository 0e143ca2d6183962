import Errand.Proofs.Run.Calls
import Errand.Proofs.Run.Showing

/-!
# Driving ends within the plan

A run may come from a text written elsewhere, so its stage, plan, cursor and results need not fit
together. Driving it ends all the same. `Run.driveWithin` drives a run with a limited number of
transitions and has no outcome if it needs more. `Run.turnsLeft` bounds what a run needs: it gets
smaller with every transition that succeeds (`turnsLeft_lt_of_turn`), so the limit suffices wherever
it is at least that large (`Travels.driveWithin_eq`).

`Run.StaysInPlan` says what a transition has to do with the cursor. The only step that asks, and the
only one that is blamed, is the step of the plan at the cursor, and the cursor only moves past such
a step, so it never moves beyond the end of the plan. Every transition of every run stays in its
plan (`staysInPlan`).

`drive_terminates` takes this together.
-/

set_option autoImplicit false

namespace Errand

namespace Run

variable {σ : Type} {team : Team σ} {thread : String} {run : Run} {step : Step}

/-! ### The step at the cursor -/

/-- Whether a step stands in the plan of a run at the cursor. -/
def AtCursor (run : Run) (step : Step) : Prop :=
  ∃ plan, run.plan = some plan ∧ plan.steps[run.cursor]? = some step

/-- A cursor that stands at a step is inside the plan. -/
theorem AtCursor.cursor_lt_size (h : run.AtCursor step) : run.cursor < run.size := by
  obtain ⟨plan, hplan, hstep⟩ := h
  exact run.cursor_lt_size hplan hstep

/-- The current step, if there is one, is the step at the cursor. -/
theorem atCursor_of_currentStep (h : run.currentStep = .ok step) : run.AtCursor step :=
  currentStep_eq_ok h

/-! ### Driving with a limit -/

/-- Drives a run to its end, if that takes no more than so many transitions. -/
def driveWithin (team : Team σ) (thread : String) (limit : Nat) (run : Run) (scene : Scene σ) :
    Option (Except RunFault Run × Scene σ) :=
  if run.isDone then some (.ok run, Journey.reportEnd true scene)
  else
    match limit with
    | 0 => none
    | limit + 1 =>
      let transition := run.advance team scene
      match transition.fault with
      | some fault => some (.error fault, Journey.reportEnd false transition.scene)
      | none =>
        match Journey.record team thread transition.run transition.scene with
        | (.error fault, scene) => some (.error (.checkpoint fault), scene)
        | (.ok _, scene) => driveWithin team thread limit transition.run scene

/-- How many steps are ahead of a run: those of its plan from the cursor on, none if the cursor is
beyond them. If a plan has yet to be written, these are all steps of the one that the planner writes
now, or none if it writes none. -/
def stepsAhead (team : Team σ) (run : Run) (scene : Scene σ) : Nat :=
  if run.stage = .plan then
    match (run.advance team scene).fault with
    | none => (run.advance team scene).run.size
    | some _ => 0
  else run.stepsLeft

/-- How many transitions a run needs at most. -/
def turnsLeft (team : Team σ) (run : Run) (scene : Scene σ) : Nat :=
  match run.stage with
  | .plan => run.stepsAhead team scene + 2
  | .tool => run.stepsLeft + 1
  | .solve => 1
  | .done => 0

theorem turnsLeft_le (team : Team σ) (run : Run) (scene : Scene σ) :
    run.turnsLeft team scene ≤ run.stepsAhead team scene + 2 := by
  cases hstage : run.stage <;> simp [turnsLeft, stepsAhead, hstage]

/-- Only a run that is done needs no transition. -/
theorem exists_succ_of_turnsLeft_le {scene : Scene σ} {limit : Nat} (hdone : run.stage ≠ .done)
    (hlimit : run.turnsLeft team scene ≤ limit) : ∃ less, limit = less + 1 := by
  have hpos : 0 < run.turnsLeft team scene := by
    cases hstage : run.stage with
    | done => exact absurd hstage hdone
    | _ => simp [turnsLeft, hstage]
  exact Nat.exists_eq_add_one.mpr (hpos.trans_le hlimit)

/-- A transition that succeeds leaves fewer of them, whatever the parts of the run were. -/
theorem turnsLeft_lt_of_advance {scene : Scene σ} (hfault : (run.advance team scene).fault = none)
    (after : Scene σ) :
    (run.advance team scene).run.turnsLeft team after < run.turnsLeft team scene := by
  obtain ⟨value, hsettles⟩ := settles_of_turn (turn_of_advance hfault)
  generalize hnext : (run.advance team scene).run = next at hsettles
  cases hsettles with
  | planned plan hstage _ =>
    -- The cursor of the run counts in the new plan too.
    simp [turnsLeft, stepsAhead, stepsLeft, hstage, hfault, hnext, size]
  | stepped plan step hstage hplan hstep =>
    have hlt := (atCursor_of_currentStep hstep).cursor_lt_size
    have hsize : run.size = plan.size := by simp [size, hplan]
    have hsize' : (run.keepOutput plan step (Step.output value)).size = plan.size := hsize
    by_cases hlast : plan.size ≤ run.cursor + 1
    · simp only [turnsLeft, keepOutput, hstage, if_pos hlast, stepsLeft]
      omega
    · simp only [turnsLeft, keepOutput, hstage, if_neg hlast, stepsLeft] at hsize' ⊢
      omega
  | solved hstage => simp [turnsLeft, hstage]

/-- A limit that is at least as large as the measure suffices. -/
theorem Travels.driveWithin_eq {scene after : Scene σ} {outcome : Except RunFault Run}
    (h : run.Travels team thread false scene outcome after) {limit : Nat}
    (hlimit : run.turnsLeft team scene ≤ limit) :
    run.driveWithin team thread limit scene = some (outcome, after) := by
  induction h generalizing limit with
  | finished hdone =>
    unfold driveWithin
    simp [isDone, hdone]
  | @stopped run scene fault hdone hfault =>
    obtain ⟨limit, rfl⟩ := exists_succ_of_turnsLeft_le hdone hlimit
    simp [driveWithin, isDone, hdone, hfault, Journey.leave]
  | @lost run scene after fault hdone hfault hrecord =>
    obtain ⟨limit, rfl⟩ := exists_succ_of_turnsLeft_le hdone hlimit
    simp [driveWithin, isDone, hdone, hfault, hrecord, Journey.leave]
  | @onward run scene kept after outcome hdone hfault hrecord _ ih =>
    obtain ⟨limit, rfl⟩ := exists_succ_of_turnsLeft_le hdone hlimit
    have hless := turnsLeft_lt_of_advance hfault kept
    rw [driveWithin]
    simp only [isDone, hdone, decide_false, Bool.false_eq_true, if_false, hfault, hrecord]
    exact ih (by omega)

/-- What comes of driving a run without a fault is done. -/
theorem Travels.stage_eq_done {claimed : Bool} {scene after : Scene σ}
    {outcome : Except RunFault Run} {final : Run}
    (h : run.Travels team thread claimed scene outcome after) (hfinal : outcome = .ok final) :
    final.stage = .done := by
  induction h with
  | finished hdone =>
    cases hfinal
    exact hdone
  | stopped => cases hfinal
  | lost => cases hfinal
  | onward _ _ _ _ ih => exact ih hfinal

/-! ### Transitions and the cursor -/

/-- Whether the next transition of a run has to do with no step but the one at the cursor. -/
structure StaysInPlan (team : Team σ) (run : Run) (scene : Scene σ) : Prop where
  /-- Nobody but the planner and the solver is asked anything that the step does not ask. -/
  asks : ∀ call ∈ (run.advance team.noted { outside := (scene.outside, []) }).scene.outside.2,
    call.inquiry = .plan run.task ∨ (∃ request, call.inquiry = .answer request) ∨
      ∃ step, run.AtCursor step ∧
        step.inquiry team.registry (run.results.resolve step.template)
          { actor := run.task.actor } = .ok call.inquiry
  /-- No other step is blamed. -/
  blames : ∀ number id cause, (run.advance team scene).fault = some (.step number id cause) →
    number = run.cursor + 1 ∧ ∃ step, run.AtCursor step ∧ step.id = id
  /-- The cursor stays where it is, or it moves past the step. -/
  counts : (run.advance team scene).run.cursor = run.cursor ∨
    run.cursor < run.size ∧ (run.advance team scene).run.cursor = run.cursor + 1

/-- What is written down in a transition is the one inquiry of the run, if there is one. -/
theorem notes_advance (team : Team σ) (run : Run) (outside : σ) :
    (run.advance team.noted { outside := (outside, []) }).scene.outside.2 =
      run.consultations team outside := by
  have hturn := advance_eq_turn team.noted run { outside := (outside, []) }
  rw [turn_noted] at hturn
  exact congrArg (fun turn ↦ turn.2.2.2) hturn

/-- A fault that names a step names the step at the cursor. -/
theorem step_of_fault_advance {scene : Scene σ} {number : Nat} {id : String} {cause : StepFault}
    (h : (run.advance team scene).fault = some (.step number id cause)) :
    number = run.cursor + 1 ∧ ∃ step, run.AtCursor step ∧ step.id = id := by
  unfold advance at h
  split at h
  · unfold advancePlan at h
    split at h
    · cases h
    · split at h <;> cases h
  · cases hstep : run.currentStep with
    | error fault =>
      have hnone := failedStep_of_currentStep hstep
      obtain rfl : fault = .step number id cause := by simpa [advanceTool, hstep] using h
      cases hnone
    | ok step =>
      obtain ⟨plan, hplan, -⟩ := currentStep_eq_ok hstep
      simp only [advanceTool, hstep] at h
      split at h
      · cases h
        exact ⟨rfl, step, atCursor_of_currentStep hstep, rfl⟩
      · simp [stageAfterTool, hplan] at h
  · unfold advanceSolve at h
    split at h
    · cases h
    · dsimp only at h
      split at h <;> cases h
  · cases h

/-- The cursor only moves inside the plan. -/
theorem cursor_advance (team : Team σ) (run : Run) (scene : Scene σ) :
    (run.advance team scene).run.cursor = run.cursor ∨
      run.cursor < run.size ∧ (run.advance team scene).run.cursor = run.cursor + 1 := by
  cases hfault : (run.advance team scene).fault with
  | some fault => exact .inl (congrArg cursor (advance_run_of_fault hfault))
  | none =>
    obtain ⟨value, hsettles⟩ := settles_of_turn (turn_of_advance hfault)
    generalize (run.advance team scene).run = next at hsettles
    cases hsettles with
    | planned => exact .inl rfl
    | stepped plan step _ _ hstep =>
      exact .inr ⟨(atCursor_of_currentStep hstep).cursor_lt_size, rfl⟩
    | solved => exact .inl rfl

/-- Every transition of every run stays in its plan. -/
theorem staysInPlan (team : Team σ) (run : Run) (scene : Scene σ) :
    run.StaysInPlan team scene where
  asks call hcall := by
    rw [notes_advance] at hcall
    cases hinquiry : run.inquiry team with
    | error fault => simp [consultations, hinquiry] at hcall
    | ok inquiry =>
      obtain rfl : call = _ := by simpa [consultations, hinquiry] using hcall
      cases asks_of_inquiry hinquiry with
      | plan => exact .inl rfl
      | step step _ hstep hask =>
        exact .inr (.inr ⟨step, atCursor_of_currentStep hstep, hask⟩)
      | answer => exact .inr (.inl ⟨_, rfl⟩)
  blames _ _ _ h := step_of_fault_advance h
  counts := cursor_advance team run scene

/-- Driving a run ends for every team and whatever the parts of the run are: in as many transitions
as there are steps ahead and two more at most, with a run that is done or a fault. No transition on
the way has to do with any step but the one at the cursor, and no cursor leaves the plan. -/
theorem drive_terminates (team : Team σ) (thread : String) (run : Run) (scene : Scene σ) :
    run.driveWithin team thread (run.stepsAhead team scene + 2) scene =
        some (run.drive team thread scene) ∧
      (∀ final, (run.drive team thread scene).1 = .ok final → final.stage = .done) ∧
      ∀ (other : Run) (now : Scene σ), other.StaysInPlan team now := by
  have htravels : run.Travels team thread false scene (run.drive team thread scene).1
      (run.drive team thread scene).2 := Journey.travels_complete run scene
  exact ⟨htravels.driveWithin_eq (turnsLeft_le team run scene),
    fun final hfinal ↦ htravels.stage_eq_done hfinal,
    fun other now ↦ staysInPlan team other now⟩

/-- A new run whose plan has two steps needs all four transitions. -/
example :
    let text := "a #E1=LLM[\x7bx\x7d] b #E2=LLM[\x7by\x7d]"
    let drives (limit : Nat) : Bool :=
      ((start { instruction := "t", actor := "u-1" }).driveWithin (Team.repeating text) "t-1" limit
        { outside := () }).isSome
    drives 3 = false ∧ drives 4 = true := by
  decide +kernel

end Run

end Errand
