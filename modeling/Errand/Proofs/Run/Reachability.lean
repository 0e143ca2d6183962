import Errand.Proofs.Plan.Check
import Errand.Proofs.Run.Inquiry

/-!
# The runs that transitions can reach

`Run.Reached task run outputs` says that transitions lead from a new run of a task to a run, and
that the steps carried out on the way gave these outputs, in order. Some of the transitions may have
failed, and no two need have been made with the same team.

The parts of such a run fit together (`Run.Sound`). The stage says which of them are there and where
the cursor stands, and the results are those of the steps before the cursor: an id stands where it
was used first, and has the output of the step that used it last. `sound_start` and `Sound.advance`
are the two halves of the induction. A sound run that is not done is never kept from its transition
by parts that do not fit (`Sound.fault_ne_routing`); `reached_sound` has both.
-/

set_option autoImplicit false

namespace Errand

variable {σ : Type}

namespace Results

/-- Recording an output adds its id at the end, unless the id has been used. -/
theorem names_insert (results : Results) (id output : String) :
    Entries.names (results.insert id output).entries =
      if id ∈ Entries.names results.entries then Entries.names results.entries
      else Entries.names results.entries ++ [id] :=
  Entries.names_set id output results.entries

theorem get?_insert (results : Results) (id output other : String) :
    (results.insert id output).get? other =
      if other = id then some output else results.get? other := by
  by_cases h : other = id
  · subst h
    rw [if_pos rfl]
    exact Entries.lookup_set_self _ _ _
  · rw [if_neg h]
    exact Entries.lookup_set_of_ne h _ _

end Results

namespace Run

/-- The steps of the plan of a run. -/
def steps (run : Run) : List Step :=
  run.plan.elim [] (·.steps)

/-- The ids of the steps that are done, in order. -/
def doneIds (run : Run) : List String :=
  (run.steps.take run.cursor).map (·.id)

/-- The output of the step that a transition carries out, if it carries one out and succeeds. -/
def outputNow (team : Team σ) (run : Run) (scene : Scene σ) : Option String :=
  match run.stage, run.currentStep with
  | .tool, .ok step =>
    (step.dispatch team { actor := run.task.actor } run.task.watched run.results scene).1.toOption
  | _, _ => none

/-- The runs of a task that transitions reach, with the outputs of the steps carried out on the
way. -/
inductive Reached (task : Task) : Run → List String → Prop
  /-- The run has not been planned yet. -/
  | start : Reached task (start task) []
  /-- One transition more, whether it succeeds or fails. -/
  | advance {σ : Type} {run : Run} {outputs : List String} (team : Team σ) (scene : Scene σ)
      (hreached : Reached task run outputs) :
      Reached task (run.advance team scene).run (outputs ++ (run.outputNow team scene).toList)

/-- The parts of a run fit together, and its results fit the outputs of the steps that are done. -/
structure Sound (run : Run) (outputs : List String) : Prop where
  /-- A run that is to be planned has nothing yet. -/
  of_plan : run.stage = .plan →
    run.plan = none ∧ run.cursor = 0 ∧ run.results = .empty ∧ run.answer = none
  /-- A run that is to carry out a step has one at the cursor. -/
  of_tool : run.stage = .tool →
    ∃ plan, run.plan = some plan ∧ plan.steps ≠ [] ∧ run.cursor < plan.size ∧ run.answer = none
  /-- A run that is to be answered has no step left. -/
  of_solve : run.stage = .solve →
    ∃ plan, run.plan = some plan ∧ run.cursor = plan.size ∧ run.answer = none
  /-- A run that is done has no step left and has an answer. -/
  of_done : run.stage = .done →
    ∃ plan answer, run.plan = some plan ∧ run.cursor = plan.size ∧ run.answer = some answer
  /-- Every step that is done gave one output. -/
  length_outputs : outputs.length = run.cursor
  /-- The results are under the ids of the steps that are done, in the order of their first use. -/
  names_results : Entries.names run.results.entries = run.doneIds.eraseDups
  /-- An id has the output of the last step that used it. -/
  get?_results : ∀ id, run.results.get? id = (run.doneIds.zip outputs).reverse.lookup id

/-! ### The output of a transition -/

theorem outputNow_of_ne_tool {run : Run} (team : Team σ) (scene : Scene σ)
    (h : run.stage ≠ .tool) : run.outputNow team scene = none := by
  unfold outputNow
  split
  · next hstage _ => exact absurd hstage h
  · rfl

/-- The output of a transition at a step is what is kept of the answer to its inquiry. -/
theorem outputNow_of_tool {run : Run} (team : Team σ) (scene : Scene σ)
    (hstage : run.stage = .tool) :
    run.outputNow team scene =
      match run.inquiry team with
      | .error _ => none
      | .ok inquiry => ((team.ask inquiry scene.outside).1.outcome.map Step.output).toOption := by
  cases hstep : run.currentStep with
  | error fault => simp [outputNow, inquiry, hstage, hstep]
  | ok step =>
    rw [inquiry_tool team hstage hstep]
    simp only [outputNow, hstage, hstep]
    cases hask : step.inquiry team.registry (run.results.resolve step.template)
        { actor := run.task.actor } with
    | error fault =>
      rw [Step.dispatch_of_refused _ _ hask]
      rfl
    | ok inquiry =>
      rw [Step.dispatch_of_asked run.task.watched scene hask]
      simp only [Except.mapError]
      cases (team.ask inquiry scene.outside).1.outcome <;> rfl

/-- A transition that fails carries no step out. -/
theorem outputNow_of_fault {team : Team σ} {run : Run} {scene : Scene σ} {fault : RunFault}
    (h : (run.advance team scene).fault = some fault) : run.outputNow team scene = none := by
  by_cases hstage : run.stage = .tool
  · rw [outputNow_of_tool team scene hstage]
    rw [fault_advance] at h
    cases hinquiry : run.inquiry team with
    | error fault => rfl
    | ok inquiry =>
      rw [turn_of_asked _ hinquiry] at h
      cases hreply : (team.ask inquiry scene.outside).1.outcome with
      | error fault => simp [hreply, Except.map, Except.toOption]
      | ok value =>
        exfalso
        cases hstep : run.currentStep with
        | error routing => simp [Run.inquiry, hstage, hstep] at hinquiry
        | ok step =>
          obtain ⟨plan, hplan, -⟩ := currentStep_eq_ok hstep
          simp [hreply, settle_tool value hstage hplan hstep] at h
  · exact outputNow_of_ne_tool team scene hstage

/-! ### One transition -/

/-- Taking one step more adds its id. -/
theorem doneIds_keepOutput {run : Run} {plan : Plan} {step : Step} (output : String)
    (hplan : run.plan = some plan) (hstep : plan.steps[run.cursor]? = some step) :
    (run.keepOutput plan step output).doneIds = run.doneIds ++ [step.id] := by
  simp [doneIds, steps, keepOutput, hplan, List.take_add_one, hstep]

theorem length_doneIds {run : Run} {plan : Plan} {step : Step} (hplan : run.plan = some plan)
    (hstep : plan.steps[run.cursor]? = some step) : run.doneIds.length = run.cursor := by
  obtain ⟨hlt, -⟩ := List.getElem?_eq_some_iff.mp hstep
  simp [doneIds, steps, hplan, Nat.le_of_lt hlt]

/-- A new run is sound. -/
theorem sound_start (task : Task) : (start task).Sound [] where
  of_plan _ := ⟨rfl, rfl, rfl, rfl⟩
  of_tool h := by cases h
  of_solve h := by cases h
  of_done h := by cases h
  length_outputs := rfl
  names_results := rfl
  get?_results _ := rfl

variable {run : Run} {outputs : List String}

/-- A plan that has been read has all of its steps before it. -/
theorem Sound.planned (hsound : run.Sound outputs) (plan : Plan) (hstage : run.stage = .plan)
    (hsteps : plan.steps ≠ []) :
    ({ run with plan := some plan, stage := .tool } : Run).Sound outputs := by
  obtain ⟨hplan, hcursor, hresults, hanswer⟩ := hsound.of_plan hstage
  have hbegins : run.cursor < plan.size := by
    simpa [hcursor, Plan.size, List.length_pos_iff] using hsteps
  have hnames := hsound.names_results
  have hget := hsound.get?_results
  exact
    { of_plan := by rintro ⟨⟩
      of_tool := fun _ ↦ ⟨plan, rfl, hsteps, hbegins, hanswer⟩
      of_solve := by rintro ⟨⟩
      of_done := by rintro ⟨⟩
      length_outputs := hsound.length_outputs
      names_results := by simpa [doneIds, steps, hplan, hcursor] using hnames
      get?_results := by simpa [doneIds, steps, hplan, hcursor] using hget }

/-- A step that succeeds moves the cursor past it, and its output is the last one under its id. -/
theorem Sound.stepped (hsound : run.Sound outputs) (plan : Plan) (step : Step) (output : String)
    (hstage : run.stage = .tool) (hplan : run.plan = some plan)
    (hstep : plan.steps[run.cursor]? = some step) :
    (run.keepOutput plan step output).Sound (outputs ++ [output]) := by
  obtain ⟨plan', hplan', -, hlt, hanswer⟩ := hsound.of_tool hstage
  obtain rfl : plan' = plan := Option.some.inj (hplan'.symm.trans hplan)
  have hids := doneIds_keepOutput output hplan hstep
  have hlength : run.doneIds.length = outputs.length :=
    (length_doneIds hplan hstep).trans hsound.length_outputs.symm
  refine ⟨?_, ?_, ?_, ?_, ?_, ?_, ?_⟩
  · intro h
    simp only [keepOutput] at h
    split at h <;> cases h
  · intro h
    simp only [keepOutput] at h
    split at h
    · cases h
    · next hlast =>
      refine ⟨plan', hplan, ?_, Nat.lt_of_not_le hlast, hanswer⟩
      rintro hnil
      simp [hnil] at hstep
  · intro h
    simp only [keepOutput] at h
    split at h
    · next hlast => exact ⟨plan', hplan, Nat.le_antisymm hlt hlast, hanswer⟩
    · cases h
  · intro h
    simp only [keepOutput] at h
    split at h <;> cases h
  · simp [keepOutput, hsound.length_outputs]
  · rw [hids, List.eraseDups_append]
    change Entries.names (run.results.insert step.id output).entries = _
    rw [Results.names_insert, hsound.names_results]
    by_cases hmem : step.id ∈ run.doneIds <;> simp [hmem, List.removeAll, List.eraseDups_cons]
  · intro id
    rw [hids, List.zip_append hlength]
    change (run.results.insert step.id output).get? id = _
    rw [Results.get?_insert, hsound.get?_results id]
    by_cases hid : id = step.id
    · simp [hid]
    · simp [hid, List.lookup_cons, beq_eq_false_iff_ne.mpr hid]

/-- An answer ends a run whose steps are done. -/
theorem Sound.solved (hsound : run.Sound outputs) (answer : String) (hstage : run.stage = .solve) :
    ({ run with answer := some answer, stage := .done } : Run).Sound outputs := by
  obtain ⟨plan, hplan, hcursor, -⟩ := hsound.of_solve hstage
  exact
    { of_plan := by rintro ⟨⟩
      of_tool := by rintro ⟨⟩
      of_solve := by rintro ⟨⟩
      of_done := fun _ ↦ ⟨plan, answer, hplan, hcursor, rfl⟩
      length_outputs := hsound.length_outputs
      names_results := hsound.names_results
      get?_results := hsound.get?_results }

/-- A transition keeps a run sound. -/
theorem Sound.advance (hsound : run.Sound outputs) (team : Team σ) (scene : Scene σ) :
    (run.advance team scene).run.Sound (outputs ++ (run.outputNow team scene).toList) := by
  cases hfault : (run.advance team scene).fault with
  | some fault =>
    rw [outputNow_of_fault hfault, run_advance]
    rw [fault_advance] at hfault
    rw [run_turn_of_fault hfault]
    simpa using hsound
  | none =>
    rw [fault_advance] at hfault
    rw [run_advance]
    rcases hturn : run.turn team scene.outside with ⟨_, next, after⟩
    obtain rfl : _ = none := by simpa [hturn] using hfault
    obtain ⟨inquiry, value, hinquiry, hreply, hsettle, -⟩ := turn_of_success hturn
    cases settles_of_settle hsettle with
    | planned plan hstage hparse =>
      rw [outputNow_of_ne_tool team scene (by simp [hstage])]
      simpa using hsound.planned plan hstage (Plan.steps_ne_nil_of_parse hparse)
    | stepped plan step hstage hplan hstep =>
      obtain ⟨plan', hplan', hget⟩ := currentStep_eq_ok hstep
      obtain rfl : plan' = plan := Option.some.inj (hplan'.symm.trans hplan)
      have houtput : run.outputNow team scene = some (Step.output value) := by
        rw [outputNow_of_tool team scene hstage, hinquiry]
        simp [hreply, Except.map, Except.toOption]
      rw [houtput]
      exact hsound.stepped plan' step (Step.output value) hstage hplan hget
    | solved hstage =>
      rw [outputNow_of_ne_tool team scene (by simp [hstage])]
      simpa using hsound.solved _ hstage

/-- Every run that transitions reach is sound. -/
theorem Reached.sound {task : Task} (h : Reached task run outputs) : run.Sound outputs := by
  induction h with
  | start => exact sound_start task
  | advance team scene _ ih => exact ih.advance team scene

/-! ### Routing -/

/-- A sound run that is not done asks, or its step is refused: parts that do not fit are not what
keeps it from asking. -/
theorem Sound.inquiry_ne_routing (hsound : run.Sound outputs) (hdone : run.stage ≠ .done)
    (team : Team σ) (message : String) : run.inquiry team ≠ .error (.routing message) := by
  cases hstage : run.stage with
  | plan => simp [inquiry_plan team hstage]
  | tool =>
    obtain ⟨plan, hplan, -, hlt, -⟩ := hsound.of_tool hstage
    have hstep := currentStep_eq_of_getElem? hplan (List.getElem?_eq_getElem hlt)
    rw [inquiry_tool team hstage hstep]
    cases Step.inquiry team.registry _ _ _ <;> simp [Except.mapError]
  | solve =>
    obtain ⟨plan, hplan, -⟩ := hsound.of_solve hstage
    simp [inquiry_solve team hstage hplan]
  | done => exact absurd hstage hdone

/-- The fault of a refusal names who refused. -/
theorem Sound.blame_ne_routing (hsound : run.Sound outputs) (hdone : run.stage ≠ .done)
    (fault : Fault) (message : String) : run.blame fault ≠ .routing message := by
  cases hstage : run.stage with
  | plan => simp [blame, hstage]
  | tool =>
    obtain ⟨plan, hplan, -, hlt, -⟩ := hsound.of_tool hstage
    have hstep := currentStep_eq_of_getElem? hplan (List.getElem?_eq_getElem hlt)
    simp [blame_tool fault hstage hstep]
  | solve => simp [blame, hstage]
  | done => exact absurd hstage hdone

/-- What an answer comes to is never that the parts of a sound run do not fit. -/
theorem Sound.settle_ne_routing (hsound : run.Sound outputs) (hdone : run.stage ≠ .done)
    (value : Json) (message : String) : run.settle value ≠ .error (.routing message) := by
  cases hstage : run.stage with
  | plan =>
    simp only [settle, hstage]
    split <;> simp
  | tool =>
    obtain ⟨plan, hplan, -, hlt, -⟩ := hsound.of_tool hstage
    have hstep := currentStep_eq_of_getElem? hplan (List.getElem?_eq_getElem hlt)
    simp [settle_tool value hstage hplan hstep]
  | solve => simp [settle, hstage]
  | done => exact absurd hstage hdone

/-- A transition of a sound run that is not done does not fail because its parts do not fit. -/
theorem Sound.fault_ne_routing (hsound : run.Sound outputs) (hdone : run.stage ≠ .done)
    (team : Team σ) (scene : Scene σ) (message : String) :
    (run.advance team scene).fault ≠ some (.routing message) := by
  rw [fault_advance]
  cases hinquiry : run.inquiry team with
  | error fault =>
    rw [turn_of_silent _ hinquiry]
    have hne := hsound.inquiry_ne_routing hdone team message
    rw [hinquiry] at hne
    simpa using hne
  | ok inquiry =>
    rw [turn_of_asked _ hinquiry]
    cases (team.ask inquiry scene.outside).1.outcome with
    | error fault => simpa using hsound.blame_ne_routing hdone fault message
    | ok value =>
      have hne := hsound.settle_ne_routing hdone value message
      dsimp only
      cases hsettle : run.settle value with
      | error fault =>
        rw [hsettle] at hne
        simpa using hne
      | ok next => simp

/-- The parts of every run that transitions reach fit together, and its results are those of the
steps before the cursor. If the run is not done, no transition fails because its parts do not
fit. -/
theorem reached_sound {task : Task} (h : Reached task run outputs) :
    run.Sound outputs ∧
      (run.stage ≠ .done → ∀ {σ : Type} (team : Team σ) (scene : Scene σ) (message : String),
        (run.advance team scene).fault ≠ some (.routing message)) :=
  ⟨h.sound, fun hdone _ team scene message ↦ h.sound.fault_ne_routing hdone team scene message⟩

end Run

/-- Two steps use one id. The run has one result, the output of the second step, and is sound. -/
theorem Run.reached_sound_repeated_id :
    let team := Team.repeating "a #E1=LLM[\x7bx\x7d] b #E1=LLM[\x7b#E1\x7d]"
    let scene : Scene Unit := { outside := () }
    let first := (start { instruction := "t", actor := "u-1" }).advance team scene
    let second := first.run.advance team scene
    let third := second.run.advance team scene
    let outputs := ["\"\x7bx\x7d\"", "\"\x7b\\\"\x7bx\x7d\\\"\x7d\""]
    Reached { instruction := "t", actor := "u-1" } third.run outputs ∧ third.run.Sound outputs ∧
      third.run.stage = .solve ∧
      third.run.results.entries = [("#E1", "\"\x7b\\\"\x7bx\x7d\\\"\x7d\"")] ∧
      ∀ message, (third.run.advance team scene).fault ≠ some (.routing message) := by
  intro team scene first second third outputs
  have hstart : Reached { instruction := "t", actor := "u-1" }
      (start { instruction := "t", actor := "u-1" }) [] := .start
  have hreached := ((hstart.advance team scene).advance team scene).advance team scene
  have hrun : [] ++ (outputNow team (start { instruction := "t", actor := "u-1" }) scene).toList ++
      (outputNow team first.run scene).toList ++ (outputNow team second.run scene).toList =
        outputs ∧ third.run.stage = .solve ∧
      third.run.results.entries = [("#E1", "\"\x7b\\\"\x7bx\x7d\\\"\x7d\"")] := by
    decide +kernel
  have hdone : third.run.stage ≠ .done := by simp [hrun.2.1]
  rw [hrun.1] at hreached
  exact ⟨hreached, (reached_sound hreached).1, hrun.2.1, hrun.2.2,
    (reached_sound hreached).2 hdone team scene⟩

end Errand
