import Errand.Proofs.Plan.Check
import Errand.Proofs.Run.Transcript

/-!
# The calls of a run

`Team.noted` is a team whose planner, language model, solver and operations write down every inquiry
that they get and how they answer it (`noted_eq`). Nothing else changes: `turn_noted` says what a
transition adds to the notes, and the run takes the same course. `Run.calls` is what is written down
while a new task is performed.

`Run.Carried` tells how the steps of a plan are carried out, without stages and cursor: one inquiry
for each step, made of the results of the steps before it, up to the first step that fails or may
not ask. `Run.Concludes` adds the end, where the solver is asked once if every step has succeeded. A
vault that refuses to keep a run ends it too, after a call that succeeded; `Team.Keeps` excludes
that. `calls_perform` says that the calls of a run are these, after the one call of the planner.
-/

set_option autoImplicit false

namespace Errand

variable {σ α : Type}

/-- An inquiry and how it was answered. -/
structure Consultation where
  /-- What was asked. -/
  inquiry : Inquiry
  /-- The answer, or why there was none. -/
  outcome : Except Fault Json

namespace Consult

/-- A call that is written down with its outcome. -/
def noted (inquiry : Inquiry) (value : α → Json) (call : Consult σ α) :
    Consult (σ × List Consultation) α := fun (outside, notes) ↦
  ((call outside).1, (call outside).2, notes ++ [⟨inquiry, (call outside).1.outcome.map value⟩])

/-- A call that is not written down. -/
def unnoted (call : Consult σ α) : Consult (σ × List Consultation) α := fun (outside, notes) ↦
  ((call outside).1, (call outside).2, notes)

end Consult

/-- A vault whose calls are not written down. -/
def Vault.unnoted (vault : Vault σ) : Vault (σ × List Consultation) where
  save thread run := (vault.save thread run).unnoted
  load thread := (vault.load thread).unnoted
  claim thread := (vault.claim thread).unnoted
  release thread := (vault.release thread).unnoted
  delete thread := (vault.delete thread).unnoted

/-- An operation that writes down how it is invoked. -/
def Operation.noted (operation : Operation σ) : Operation (σ × List Consultation) where
  info := operation.info
  invoke parameters context :=
    (operation.invoke parameters context).noted (.operation operation.name parameters context) id

/-- A team that writes down what it is asked. -/
def Team.noted (team : Team σ) : Team (σ × List Consultation) where
  planner task := (team.planner task).noted (.plan task) .str
  oracle text := (team.oracle text).noted (.prompt text) .str
  solver request := (team.solver request).noted (.answer request) .str
  registry := { operations := team.registry.operations.map Operation.noted }
  vault := team.vault.map Vault.unnoted
  solverInput := team.solverInput

/-! ### What is written down -/

/-- What is written down of an utterance: the inquiry and its outcome. -/
def Utterance.consultation (utterance : Utterance) : Consultation :=
  ⟨utterance.inquiry, utterance.reply.outcome⟩

theorem Operation.noted_eq (operation : Operation σ) :
    operation.noted = operation.transcribed Utterance.consultation := by
  have hcall : ∀ (inquiry : Inquiry) (call : Consult σ Json),
      call.noted inquiry id = call.transcribed fun reply ↦ ⟨inquiry, reply.outcome⟩ := by
    intro inquiry call
    funext ⟨outside, notes⟩
    simp only [Consult.noted, Consult.transcribed]
    cases (call outside).1.outcome <;> rfl
  simp only [noted, hcall]
  rfl

/-- To write down inquiries with their outcomes is to write down this of what is said. -/
theorem Team.noted_eq (team : Team σ) :
    team.noted = team.transcribed Utterance.consultation := by
  simp only [noted, funext Operation.noted_eq]
  rfl

@[simp] theorem Registry.contains_noted (team : Team σ) (name : String) :
    team.noted.registry.contains name = team.registry.contains name := by
  rw [Team.noted_eq, contains_transcribed]

/-- A team that writes down what it is asked answers as before, and writes down the answer. -/
theorem Team.ask_noted {team : Team σ} {inquiry : Inquiry} (hknows : team.Knows inquiry)
    (outside : σ) (notes : List Consultation) :
    team.noted.ask inquiry (outside, notes) =
      ((team.ask inquiry outside).1, (team.ask inquiry outside).2,
        notes ++ [⟨inquiry, (team.ask inquiry outside).1.outcome⟩]) := by
  rw [noted_eq, ask_transcribed _ hknows]
  rfl

namespace Run

/-- What a transition adds to the notes. -/
def consultations (team : Team σ) (run : Run) (outside : σ) : List Consultation :=
  match run.inquiry team with
  | .error _ => []
  | .ok inquiry => [⟨inquiry, (team.ask inquiry outside).1.outcome⟩]

theorem consultations_eq (team : Team σ) (run : Run) (outside : σ) :
    run.consultations team outside =
      (run.utterances team outside).map Utterance.consultation := by
  unfold consultations utterances
  cases run.inquiry team <;> rfl

/-- Writing down its inquiry changes nothing about a transition. -/
theorem turn_noted (team : Team σ) (run : Run) (outside : σ) (notes : List Consultation) :
    run.turn team.noted (outside, notes) =
      ((run.turn team outside).1, (run.turn team outside).2.1, (run.turn team outside).2.2,
        notes ++ run.consultations team outside) := by
  rw [Team.noted_eq, turn_transcribed, consultations_eq]

theorem turn_noted_of_turn {team : Team σ} {run next : Run} {outside after : σ}
    {fault : Option RunFault} (h : run.turn team outside = (fault, next, after))
    (notes : List Consultation) :
    run.turn team.noted (outside, notes) =
      (fault, next, after, notes ++ run.consultations team outside) := by
  rw [turn_noted, h]

end Run

theorem Team.keep_noted (team : Team σ) (thread : String) (run : Run) (outside : σ)
    (notes : List Consultation) :
    team.noted.keep thread run (outside, notes) =
      ((team.keep thread run outside).1, (team.keep thread run outside).2, notes) := by
  rw [noted_eq, keep_transcribed]

theorem Team.keep_noted_of_keep {team : Team σ} {thread : String} {run : Run} {outside after : σ}
    {kept : Except Fault Unit} (h : team.keep thread run outside = (kept, after))
    (notes : List Consultation) :
    team.noted.keep thread run (outside, notes) = (kept, after, notes) := by
  rw [keep_noted, h]

theorem Team.giveBack_noted (team : Team σ) (thread : String) (claimed : Bool) (outside : σ)
    (notes : List Consultation) :
    team.noted.giveBack thread claimed (outside, notes) =
      (team.giveBack thread claimed outside, notes) := by
  rw [noted_eq, giveBack_transcribed]

namespace Run

variable {team : Team σ} {thread : String} {claimed : Bool}

theorem Drives.noted_stopped {run next : Run} {outside after : σ} {fault : RunFault}
    (hdone : run.stage ≠ .done) (hturn : run.turn team outside = (some fault, next, after))
    (notes : List Consultation) :
    run.Drives team.noted thread claimed (outside, notes) (.error fault)
      (team.giveBack thread claimed after, notes ++ run.consultations team outside) := by
  rw [Team.noted_eq, consultations_eq]
  exact transcribed_stopped _ hdone hturn notes

theorem Drives.noted_lost {run next : Run} {outside between lost : σ} {fault : Fault}
    (hdone : run.stage ≠ .done) (hturn : run.turn team outside = (none, next, between))
    (hkeep : team.keep thread next between = (.error fault, lost)) (notes : List Consultation) :
    run.Drives team.noted thread claimed (outside, notes) (.error (.checkpoint fault))
      (team.giveBack thread claimed lost, notes ++ run.consultations team outside) := by
  rw [Team.noted_eq, consultations_eq]
  exact transcribed_lost _ hdone hturn hkeep notes

theorem Drives.noted_onward {run next : Run} {outside between kept after : σ}
    {outcome : Except RunFault Run} {notes notes' : List Consultation}
    (hdone : run.stage ≠ .done) (hturn : run.turn team outside = (none, next, between))
    (hkeep : team.keep thread next between = (.ok (), kept))
    (hrest : next.Drives team.noted thread claimed
      (kept, notes ++ run.consultations team outside) outcome (after, notes')) :
    run.Drives team.noted thread claimed (outside, notes) outcome (after, notes') := by
  rw [Team.noted_eq, consultations_eq] at hrest
  rw [Team.noted_eq]
  exact transcribed_onward _ hdone hturn hkeep hrest

end Run

/-! ### The steps of a plan -/

/-- A vault that never refuses to keep a run or to forget one. -/
structure Vault.Willing (vault : Vault σ) : Prop where
  save : ∀ thread run outside, (vault.save thread run outside).1.outcome = .ok ()
  delete : ∀ thread outside, ∃ existed, (vault.delete thread outside).1.outcome = .ok existed

/-- A team that never fails to keep a run, because its vault is willing or because it has none. -/
def Team.Keeps (team : Team σ) : Prop :=
  ∀ vault ∈ team.vault, vault.Willing

theorem Team.keep_of_keeps {team : Team σ} (hkeeps : team.Keeps) (thread : String) (run : Run)
    (outside : σ) : ∃ after, team.keep thread run outside = (.ok (), after) := by
  unfold keep
  cases hsome : team.vault with
  | none => exact ⟨_, rfl⟩
  | some vault =>
    have hwilling := hkeeps vault (by simp [hsome])
    obtain ⟨existed, hdelete⟩ := hwilling.delete thread outside
    by_cases hdone : run.isDone
    · simp [hdone, hdelete, Except.map]
    · simp [hdone, hwilling.save]

theorem Team.keep_cases (team : Team σ) (thread : String) (run : Run) (outside : σ) :
    (∃ kept, team.keep thread run outside = (.ok (), kept)) ∨
      ¬ team.Keeps ∧ ∃ fault lost, team.keep thread run outside = (.error fault, lost) := by
  rcases hkeep : team.keep thread run outside with ⟨fault | _, after⟩
  · refine .inr ⟨fun hkeeps ↦ ?_, fault, after, rfl⟩
    obtain ⟨kept, hkept⟩ := Team.keep_of_keeps hkeeps thread run outside
    rw [hkept] at hkeep
    cases hkeep
  · exact .inl ⟨after, rfl⟩

namespace Run

/-- How the steps of a plan are carried out from one of them on: their inquiries with the answers,
and the results at the end or the fault that ended them. Steps are numbered from one. -/
inductive Carried (team : Team σ) (context : Operation.Context) :
    Nat → Results → List Step → List Consultation → Except RunFault Results → Prop
  /-- No step is left. -/
  | finished {number : Nat} {results : Results} :
      Carried team context number results [] [] (.ok results)
  /-- A step may not ask. -/
  | refused {number : Nat} {results : Results} {step : Step} {rest : List Step} {fault : StepFault}
      (hask : step.inquiry team.registry (results.resolve step.template) context = .error fault) :
      Carried team context number results (step :: rest) [] (.error (.step number step.id fault))
  /-- A step asks and gets no answer. -/
  | failed {number : Nat} {results : Results} {step : Step} {rest : List Step} {inquiry : Inquiry}
      {fault : Fault}
      (hask : step.inquiry team.registry (results.resolve step.template) context = .ok inquiry) :
      Carried team context number results (step :: rest) [⟨inquiry, .error fault⟩]
        (.error (.step number step.id (.failed step.operation fault)))
  /-- A step asks and is answered, and the run cannot be kept. -/
  | lost {number : Nat} {results : Results} {step : Step} {rest : List Step} {inquiry : Inquiry}
      {value : Json} {fault : Fault} (hkeeps : ¬ team.Keeps)
      (hask : step.inquiry team.registry (results.resolve step.template) context = .ok inquiry) :
      Carried team context number results (step :: rest) [⟨inquiry, .ok value⟩]
        (.error (.checkpoint fault))
  /-- A step asks, its output is kept, and the next step follows. -/
  | succeeded {number : Nat} {results : Results} {step : Step} {rest : List Step}
      {inquiry : Inquiry} {value : Json} {calls : List Consultation}
      {ending : Except RunFault Results}
      (hask : step.inquiry team.registry (results.resolve step.template) context = .ok inquiry)
      (hrest : Carried team context (number + 1)
        (results.insert step.id (Step.output value)) rest calls ending) :
      Carried team context number results (step :: rest) (⟨inquiry, .ok value⟩ :: calls) ending

/-- How a run ends after its steps: a fault ended them, or the solver is asked. -/
inductive Concludes (team : Team σ) (task : Task) (plan : Plan) :
    Except RunFault Results → List Consultation → Except RunFault Run → Prop
  /-- The steps ended with a fault, and nobody is asked after it. -/
  | failed {fault : RunFault} : Concludes team task plan (.error fault) [] (.error fault)
  /-- The solver answers. -/
  | answered {results : Results} {answer : String} :
      Concludes team task plan (.ok results)
        [⟨.answer (SolverRequest.build task.instruction plan results team.solverInput),
          .ok (.str answer)⟩]
        (.ok { task, stage := .done, plan := some plan, results, cursor := plan.size
               answer := some answer })
  /-- The solver does not answer. -/
  | unanswered {results : Results} {fault : Fault} :
      Concludes team task plan (.ok results)
        [⟨.answer (SolverRequest.build task.instruction plan results team.solverInput),
          .error fault⟩]
        (.error (.solver fault))
  /-- The solver answers, and the run that is done cannot be removed. -/
  | lost {results : Results} {fault : Fault} (answer : String) (hkeeps : ¬ team.Keeps) :
      Concludes team task plan (.ok results)
        [⟨.answer (SolverRequest.build task.instruction plan results team.solverInput),
          .ok (.str answer)⟩]
        (.error (.checkpoint fault))

variable {team : Team σ} {thread : String} {claimed : Bool}

/-- A run whose steps are done asks the solver once, and ends with what comes of that. -/
theorem Drives.concluded {run : Run} {plan : Plan} {outside after : σ}
    {outcome : Except RunFault Run} (hstage : run.stage = .solve)
    (hplan : run.plan = some plan) (hcursor : run.cursor = plan.size)
    (h : run.Drives team thread claimed outside outcome after) :
    ∃ last, Concludes team run.task plan (.ok run.results) last outcome ∧
      ∀ notes, run.Drives team.noted thread claimed (outside, notes) outcome
        (after, notes ++ last) := by
  have hdone : run.stage ≠ .done := by simp [hstage]
  have hinquiry := inquiry_solve team hstage hplan
  let request := SolverRequest.build run.task.instruction plan run.results team.solverInput
  cases hreply : (team.solver request outside).1.outcome with
  | error fault =>
    have hcalls : run.consultations team outside = [⟨.answer request, .error fault⟩] := by
      simp [consultations, hinquiry, Team.ask, request, hreply, Except.map]
    have hturn : run.turn team outside =
        (some (.solver fault), run, (team.ask (.answer request) outside).2) := by
      rw [turn_of_asked _ hinquiry]
      simp [Team.ask, request, hreply, Except.map, blame, hstage]
    obtain ⟨rfl, rfl⟩ := h.unique (.stopped hdone hturn)
    refine ⟨_, .unanswered, fun notes ↦ ?_⟩
    rw [← hcalls]
    exact noted_stopped hdone hturn notes
  | ok answer =>
    let next : Run := { run with answer := some answer, stage := .done }
    have hnext : next =
        { task := run.task, stage := .done, plan := some plan, results := run.results
          cursor := plan.size, answer := some answer } := by
      simp [next, hplan, hcursor]
    have hcalls : run.consultations team outside = [⟨.answer request, .ok (.str answer)⟩] := by
      simp [consultations, hinquiry, Team.ask, request, hreply, Except.map]
    have hturn : run.turn team outside =
        (none, next, (team.ask (.answer request) outside).2) := by
      rw [turn_of_asked _ hinquiry]
      simp [Team.ask, request, hreply, Except.map, settle_solve answer hstage, next]
    rcases team.keep_cases thread next (team.ask (.answer request) outside).2 with
      ⟨kept, hkeep⟩ | ⟨hkeeps, fault, lost, hkeep⟩
    · obtain ⟨rfl, rfl⟩ := h.unique (.onward hdone hturn hkeep (.finished rfl))
      have hconcludes : Concludes team run.task plan (.ok run.results)
          [⟨.answer request, .ok (.str answer)⟩] (.ok next) := by
        rw [hnext]
        exact .answered
      refine ⟨_, hconcludes, fun notes ↦ ?_⟩
      rw [← hcalls]
      exact noted_onward hdone hturn hkeep (.finished rfl)
    · obtain ⟨rfl, rfl⟩ := h.unique (.lost hdone hturn hkeep)
      refine ⟨_, .lost answer hkeeps, fun notes ↦ ?_⟩
      rw [← hcalls]
      exact noted_lost hdone hturn hkeep notes

/-- A run that is to carry out the rest of its steps carries them out in order and concludes. -/
theorem Drives.carried {plan : Plan} (rest : List Step) {run : Run} {outside after : σ}
    {outcome : Except RunFault Run} (hplan : run.plan = some plan)
    (hrest : plan.steps.drop run.cursor = rest) (hcursor : run.cursor ≤ plan.size)
    (hstage : run.stage = if rest = [] then .solve else .tool)
    (h : run.Drives team thread claimed outside outcome after) :
    ∃ calls last ending,
      Carried team { actor := run.task.actor } (run.cursor + 1) run.results rest calls ending ∧
      Concludes team run.task plan ending last outcome ∧
      ∀ notes, run.Drives team.noted thread claimed (outside, notes) outcome
        (after, notes ++ calls ++ last) := by
  induction rest generalizing run outside with
  | nil =>
    have hlast : run.cursor = plan.size :=
      Nat.le_antisymm hcursor (List.drop_eq_nil_iff.mp hrest)
    obtain ⟨last, hconcludes, hnoted⟩ := h.concluded (by simpa using hstage) hplan hlast
    exact ⟨[], last, .ok run.results, .finished, hconcludes, by simpa using hnoted⟩
  | cons step rest ih =>
    have hstep : plan.steps[run.cursor]? = some step := by
      rw [← List.head?_drop, hrest, List.head?_cons]
    have htail : plan.steps.drop (run.cursor + 1) = rest := by
      rw [← List.tail_drop, hrest, List.tail_cons]
    obtain ⟨hlt, -⟩ := List.getElem?_eq_some_iff.mp hstep
    replace hstage : run.stage = .tool := by simpa using hstage
    have hdone : run.stage ≠ .done := by simp [hstage]
    have hcurrent := currentStep_eq_of_getElem? hplan hstep
    have hinquiry := inquiry_tool team hstage hcurrent
    cases hask : step.inquiry team.registry (run.results.resolve step.template)
        { actor := run.task.actor } with
    | error fault =>
      rw [hask] at hinquiry
      have hcalls : run.consultations team outside = [] := by
        simp [consultations, hinquiry, Except.mapError]
      obtain ⟨rfl, rfl⟩ := h.unique (.stopped hdone (turn_of_silent outside hinquiry))
      refine ⟨[], [], _, .refused hask, .failed, fun notes ↦ ?_⟩
      rw [show notes ++ [] ++ [] = notes ++ run.consultations team outside by simp [hcalls]]
      exact noted_stopped hdone (turn_of_silent outside hinquiry) notes
    | ok inquiry =>
      rw [hask] at hinquiry
      have hcalls : run.consultations team outside =
          [⟨inquiry, (team.ask inquiry outside).1.outcome⟩] := by
        simp [consultations, hinquiry, Except.mapError]
      have hturn := turn_of_asked outside hinquiry
      cases hreply : (team.ask inquiry outside).1.outcome with
      | error fault =>
        rw [hreply] at hcalls hturn
        dsimp only at hturn
        rw [blame_tool fault hstage hcurrent] at hturn
        obtain ⟨rfl, rfl⟩ := h.unique (.stopped hdone hturn)
        refine ⟨[⟨inquiry, .error fault⟩], [], _, .failed hask, .failed, fun notes ↦ ?_⟩
        rw [List.append_nil, ← hcalls]
        exact noted_stopped hdone hturn notes
      | ok value =>
        rw [hreply] at hcalls hturn
        simp only [settle_tool value hstage hplan hcurrent] at hturn
        let next := run.keepOutput plan step (Step.output value)
        rcases team.keep_cases thread next (team.ask inquiry outside).2 with
          ⟨kept, hkeep⟩ | ⟨hkeeps, fault, lost, hkeep⟩
        · have hnext : next.stage = if rest = [] then .solve else .tool := by
            have hlast : rest = [] ↔ plan.size ≤ run.cursor + 1 := by
              rw [← htail]
              exact List.drop_eq_nil_iff
            by_cases hsize : plan.size ≤ run.cursor + 1 <;> simp [next, keepOutput, hlast, hsize]
          have hplan' : next.plan = some plan := hplan
          obtain ⟨calls, last, ending, hcarried, hconcludes, hnoted⟩ :=
            ih hplan' htail hlt hnext (h.rest hdone hturn hkeep)
          refine ⟨⟨inquiry, .ok value⟩ :: calls, last, ending, .succeeded hask hcarried, hconcludes,
            fun notes ↦ noted_onward hdone hturn hkeep ?_⟩
          rw [hcalls, show notes ++ ⟨inquiry, .ok value⟩ :: calls ++ last =
            notes ++ [⟨inquiry, .ok value⟩] ++ calls ++ last by simp]
          exact hnoted (notes ++ [⟨inquiry, .ok value⟩])
        · obtain ⟨rfl, rfl⟩ := h.unique (.lost hdone hturn hkeep)
          refine ⟨[⟨inquiry, .ok value⟩], [], _, .lost hkeeps hask, .failed, fun notes ↦ ?_⟩
          rw [List.append_nil, ← hcalls]
          exact noted_lost hdone hturn hkeep notes

/-! ### The calls of a new task -/

/-- What a team is asked while a new task is performed, with the answers, in order. -/
def calls (team : Team σ) (thread : String) (task : Task) (outside : σ) : List Consultation :=
  (perform team.noted thread task { outside := (outside, []) }).2.outside.2

/-- The calls of a run whose planner writes a plan are the one call of the planner, one call for
each step up to the first that fails or may not ask, and one call of the solver if there is no such
step. The outcome is that of the last call or of the step that may not ask. Only a vault that does
not keep the run can end it earlier. -/
theorem calls_perform {team : Team σ} {task : Task} {scene : Scene σ} {text : String} {plan : Plan}
    (thread : String) (htext : (team.planner task scene.outside).1.outcome = .ok text)
    (hparse : Plan.parse text = .ok plan) :
    (∃ steps last ending,
      Carried team { actor := task.actor } 1 .empty plan.steps steps ending ∧
      Concludes team task plan ending last (perform team thread task scene).1 ∧
      calls team thread task scene.outside = ⟨.plan task, .ok (.str text)⟩ :: steps ++ last) ∨
    ¬ team.Keeps ∧ (∃ fault, (perform team thread task scene).1 = .error (.checkpoint fault)) ∧
      calls team thread task scene.outside = [⟨.plan task, .ok (.str text)⟩] := by
  have hdrives := drives_perform team thread task scene
  have hnoted := drives_perform team.noted thread task { outside := (scene.outside, []) }
  have hdone : (start task).stage ≠ .done := by simp [start]
  have hinquiry : (start task).inquiry team = .ok (.plan task) := inquiry_plan team rfl
  let next : Run := { start task with plan := some plan, stage := .tool }
  have hcalls : (start task).consultations team scene.outside =
      [⟨.plan task, .ok (.str text)⟩] := by
    simp [consultations, hinquiry, Team.ask, htext, Except.map]
  have hturn : (start task).turn team scene.outside =
      (none, next, (team.ask (.plan task) scene.outside).2) := turn_start htext hparse
  rcases team.keep_cases thread next (team.ask (.plan task) scene.outside).2 with
    ⟨kept, hkeep⟩ | ⟨hkeeps, fault, lost, hkeep⟩
  · left
    have hstage : next.stage = if plan.steps = [] then .solve else .tool := by
      simp [next, Plan.steps_ne_nil_of_parse hparse]
    obtain ⟨steps, last, ending, hcarried, hconcludes, hrest⟩ :=
      (hdrives.rest hdone hturn hkeep).carried plan.steps rfl rfl (Nat.zero_le _) hstage
    refine ⟨steps, last, ending, hcarried, hconcludes, ?_⟩
    have hcourse := Drives.noted_onward hdone hturn hkeep
      (hrest ([] ++ (start task).consultations team scene.outside))
    rw [calls, (hnoted.unique hcourse).2, hcalls]
    rfl
  · right
    refine ⟨hkeeps, ⟨fault, (hdrives.unique (.lost hdone hturn hkeep)).1⟩, ?_⟩
    rw [calls, (hnoted.unique (.noted_lost hdone hturn hkeep [])).2, hcalls]
    rfl

/-- The second step names an operation that nobody has registered. It makes no call, although its id
has been used before, and neither does the solver. -/
theorem calls_perform_unknown_operation :
    let text := "a #E1=LLM[\x7bx\x7d] b #E1=Count[\x7by\x7d]"
    let plan : Plan :=
      ⟨[⟨"a", "#E1", "LLM", "\x7bx\x7d"⟩, ⟨"b", "#E1", "Count", "\x7by\x7d"⟩], text⟩
    let task : Task := { instruction := "t", actor := "u-1" }
    let outcome := (perform (Team.repeating text) "t-1" task { outside := () }).1
    ∃ steps last ending,
      Carried (Team.repeating text) { actor := "u-1" } 1 .empty plan.steps steps ending ∧
      Concludes (Team.repeating text) task plan ending last outcome ∧
      calls (Team.repeating text) "t-1" task () =
        ⟨.plan task, .ok (.str text)⟩ :: steps ++ last := by
  intro text plan task outcome
  have hparse : Plan.parse text = .ok plan := Plan.parse_of_toOption (by decide +kernel)
  have htext : ((Team.repeating text).planner task ()).1.outcome = .ok text := rfl
  rcases calls_perform "t-1" htext hparse with hcalls | ⟨hkeeps, -⟩
  · exact hcalls
  · exact absurd (fun vault hvault ↦ by cases hvault) hkeeps

end Run

end Errand
