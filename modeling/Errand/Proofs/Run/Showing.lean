import Errand.Proofs.Run.History
import Errand.Proofs.Run.Transcript

/-!
# What a run shows

`Run.Shows` has what one transition shows somebody who follows the run, given what is said in it:
the plan once it has been read, the tokens of a reply and then the step that was carried out, or
only tokens, as when the transition fails. This is what is told of the reply
(`Shows.recount_of_fault`), and if the transition succeeds, the rest of the transcript is told after
it (`Shows.recount_append`). `Travels.tells` puts transitions together: what a run shows that is
driven to its end is told of the transcript of its team, the plan is told if it was written on the
way, and the steps are told one by one, numbered on from the cursor at the beginning.
-/

set_option autoImplicit false

namespace Errand

variable {σ α : Type}

/-! ### Reading events -/

namespace Event

/-- The plan that an event shows. -/
def plan? : Event → Option Plan
  | .plan written => some written
  | .token _ | .step _ _ => none

/-- The number that the event of a step shows. -/
def index? : Event → Option Json
  | .step _ payload => some ((payload.field? "index").getD .null)
  | .plan _ | .token _ => none

/-- Whether an event shows a step at most as one whose number has 64 bits. -/
def IsCounted : Event → Prop
  | .step _ payload =>
    ∃ index step output, index < 2 ^ 64 ∧ payload = stepPayload index step output
  | .plan _ | .token _ => True

@[simp] theorem plan?_plan (written : Plan) : (Event.plan written).plan? = some written := rfl

@[simp] theorem plan?_token (text : String) : (Event.token text).plan? = none := rfl

@[simp] theorem plan?_step (id : String) (payload : Json) :
    (Event.step id payload).plan? = none := rfl

@[simp] theorem index?_plan (written : Plan) : (Event.plan written).index? = none := rfl

@[simp] theorem index?_token (text : String) : (Event.token text).index? = none := rfl

@[simp] theorem index?_step (id : String) (index : Nat) (carried : Step) (output : String) :
    (Event.step id (stepPayload index carried output)).index? = some (.nat index) := rfl

end Event

section Tokens

variable (utterance : Utterance)

@[simp] theorem Utterance.plans_tokens : utterance.tokens.filterMap Event.plan? = [] := by
  simp [tokens, List.filterMap_map, Function.comp_def]

@[simp] theorem Utterance.indexes_tokens : utterance.tokens.filterMap Event.index? = [] := by
  simp [tokens, List.filterMap_map, Function.comp_def]

theorem Utterance.isCounted_tokens : ∀ event ∈ utterance.tokens, event.IsCounted := by
  simp [tokens, Event.IsCounted]

end Tokens

/-! ### One transition -/

/-- What a transition shows of what is said in it, with its fault and the run after it. -/
inductive Run.Shows (team : Team σ) (run : Run) :
    List Utterance → Option RunFault → Run → List Event → Prop
  /-- The plan that the planner wrote. -/
  | planned {outside : σ} {reply : Reply Json} {text : String} {plan : Plan}
      (hstage : run.stage = .plan) (htext : (team.planner run.task outside).1.outcome = .ok text)
      (hreply : reply.outcome = .ok (.str text)) (hparse : Plan.parse text = .ok plan) :
      Shows team run [⟨.plan run.task, reply⟩] none
        { run with plan := some plan, stage := .tool } [.plan plan]
  /-- Nothing, because there is no plan. -/
  | unplanned {utterance : Utterance} {fault : RunFault} (hstage : run.stage = .plan)
      (hplan : utterance.plan? = none) (hfault : fault.failedStep = none) :
      Shows team run [utterance] (some fault) run []
  /-- Tokens, and the step at the cursor with its output. -/
  | stepped {plan : Plan} {step : Step} {utterance : Utterance} {value : Json}
      (hstage : run.stage = .tool) (hplan : run.plan = some plan)
      (hstep : plan.steps[run.cursor]? = some step)
      (hfor : utterance.IsFor team step run.task.actor)
      (hvalue : utterance.reply.outcome = .ok value) :
      Shows team run [utterance] none (run.keepOutput plan step (Step.output value))
        (utterance.tokens ++
          [.step step.id (Event.stepPayload (run.cursor + 1) step (Step.output value))])
  /-- Tokens of the answer. -/
  | solved {utterance : Utterance} (answer : String) (hstage : run.stage = .solve) :
      Shows team run [utterance] none { run with answer := some answer, stage := .done }
        utterance.tokens
  /-- Tokens before a step or the solver failed. -/
  | failed {utterance : Utterance} {cause : Fault} {fault : RunFault}
      (hstage : run.stage = .tool ∨ run.stage = .solve)
      (hcause : utterance.reply.outcome = .error cause)
      (hfor : ∀ reply ∈ run.replies [utterance], reply.2.IsFor team reply.1 run.task.actor)
      (hindex : ∀ index ∈ fault.failedStep, index ≤ run.size) :
      Shows team run [utterance] (some fault) run utterance.tokens
  /-- Nothing, because nobody was asked. -/
  | silent {fault : RunFault} (hindex : ∀ index ∈ fault.failedStep, index ≤ run.size) :
      Shows team run [] (some fault) run []

section Transitions

variable {team : Team σ} {run : Run}

namespace Run

theorem cursor_lt_size {plan : Plan} {step : Step} (hplan : run.plan = some plan)
    (hstep : plan.steps[run.cursor]? = some step) : run.cursor < run.size := by
  obtain ⟨hlt, -⟩ := List.getElem?_eq_some_iff.mp hstep
  rwa [size, hplan]

/-- Only the fault of a step has a number. -/
theorem Shows.silent_of_none {fault : RunFault} (hfault : fault.failedStep = none) :
    run.Shows team [] (some fault) run [] :=
  .silent fun index hindex ↦ by simp [hfault] at hindex

theorem failedStep_of_currentStep {fault : RunFault} (h : run.currentStep = .error fault) :
    fault.failedStep = none := by
  unfold currentStep at h
  split at h
  · cases h
    rfl
  · split at h <;> cases h
    rfl

theorem shows_advancePlan (team : Team σ) (scene : Scene σ) (hwatched : run.task.watched = true)
    (hstage : run.stage = .plan) :
    ∃ shown, (run.advancePlan team scene).scene.events = scene.events ++ shown ∧
      run.Shows team (run.utterances team scene.outside) (run.advancePlan team scene).fault
        (run.advancePlan team scene).run shown := by
  have hevents := Scene.events_consult_unwatched (team.planner run.task) scene
  have houtcome := Scene.outcome_consult false (team.planner run.task) scene
  have hreply : (team.ask (.plan run.task) scene.outside).1.outcome =
      (team.planner run.task scene.outside).1.outcome.map .str :=
    Consult.outcome_map _ _ _
  rw [utterances_of_asked _ (inquiry_plan team hstage), advancePlan]
  rcases hconsult : scene.consult false (team.planner run.task) with ⟨fault | text, after⟩ <;>
    rw [hconsult] at hevents houtcome <;> rw [← houtcome] at hreply
  · exact ⟨[], by simpa using hevents, .unplanned hstage (by simp [Utterance.plan?, hreply,
      Except.map]) rfl⟩
  · dsimp only
    cases hparse : Plan.parse text with
    | error fault =>
      exact ⟨[], by simpa using hevents, .unplanned hstage (by simp [Utterance.plan?, hreply,
        Except.map, hparse, Except.toOption]) rfl⟩
    | ok plan =>
      refine ⟨[.plan plan], ?_, .planned hstage houtcome.symm hreply hparse⟩
      rw [hwatched, Scene.events_emit, hevents]

theorem shows_advanceTool (team : Team σ) (scene : Scene σ) (hwatched : run.task.watched = true)
    (hstage : run.stage = .tool) :
    ∃ shown, (run.advanceTool team scene).scene.events = scene.events ++ shown ∧
      run.Shows team (run.utterances team scene.outside) (run.advanceTool team scene).fault
        (run.advanceTool team scene).run shown := by
  rw [advanceTool, hwatched]
  cases hstep : run.currentStep with
  | error fault =>
    have hinquiry : run.inquiry team = .error fault := by
      rw [inquiry, hstage]
      simp only [hstep]
    rw [utterances_of_silent _ hinquiry]
    exact ⟨[], by simp, .silent_of_none (failedStep_of_currentStep hstep)⟩
  | ok step =>
    obtain ⟨plan, hplan, hget⟩ := currentStep_eq_ok hstep
    have hinquiry := inquiry_tool team hstage hstep
    have hindex : ∀ cause index, index ∈ (RunFault.step (run.cursor + 1) step.id cause).failedStep →
        index ≤ run.size := by
      intro cause index hindex
      obtain rfl : run.cursor + 1 = index := by simpa [RunFault.failedStep] using hindex
      exact cursor_lt_size hplan hget
    cases hask : step.inquiry team.registry (run.results.resolve step.template)
        { actor := run.task.actor } with
    | error fault =>
      rw [hask] at hinquiry
      rw [utterances_of_silent _ hinquiry]
      dsimp only
      rw [Step.dispatch_of_refused true scene hask]
      exact ⟨[], by simp, .silent (hindex fault)⟩
    | ok inquiry =>
      rw [hask] at hinquiry
      rw [utterances_of_asked _ hinquiry]
      dsimp only
      rw [Step.dispatch_of_asked true scene hask]
      have hevents := Scene.events_consult true (team.ask inquiry) scene
      have hfor : Utterance.IsFor team step run.task.actor
          ⟨inquiry, (team.ask inquiry scene.outside).1⟩ := ⟨_, hask⟩
      cases hreply : (team.ask inquiry scene.outside).1.outcome with
      | error fault =>
        refine ⟨_, hevents, .failed (.inl hstage) hreply ?_ (hindex _)⟩
        rw [replies, stepsIn_step hstage hplan hget]
        simpa using hfor
      | ok value =>
        have hshows : run.Shows team [⟨inquiry, (team.ask inquiry scene.outside).1⟩] none _ _ :=
          .stepped hstage hplan hget hfor hreply
        rw [keepOutput, hplan] at hshows
        simp only [stageAfterTool, hplan]
        refine ⟨_, ?_, hshows⟩
        rw [Scene.events_emit, Scene.events_report, hevents, List.append_assoc]
        rfl

theorem shows_advanceSolve (team : Team σ) (scene : Scene σ) (hwatched : run.task.watched = true)
    (hstage : run.stage = .solve) :
    ∃ shown, (run.advanceSolve team scene).scene.events = scene.events ++ shown ∧
      run.Shows team (run.utterances team scene.outside) (run.advanceSolve team scene).fault
        (run.advanceSolve team scene).run shown := by
  rw [advanceSolve, hwatched]
  cases hplan : run.plan with
  | none =>
    have hinquiry :
        run.inquiry team = .error (.routing "Solve stage entered without a plan") := by
      rw [inquiry, hstage]
      simp only [hplan]
    rw [utterances_of_silent _ hinquiry]
    exact ⟨[], by simp, .silent_of_none rfl⟩
  | some plan =>
    let request := SolverRequest.build run.task.instruction plan run.results team.solverInput
    have hevents := Scene.events_consult true (team.solver request) scene
    have houtcome := Scene.outcome_consult true (team.solver request) scene
    have hask : (team.ask (.answer request) scene.outside).1 =
        (team.solver request scene.outside).1.map .str := by
      rw [Team.ask, Consult.map_apply]
    rw [utterances_of_asked _ (inquiry_solve team hstage hplan), hask]
    dsimp only
    rcases hconsult : scene.consult true (team.solver request) with ⟨fault | answer, after⟩ <;>
      rw [hconsult] at hevents houtcome
    · have hcause :
          ((team.solver request scene.outside).1.map Json.str).outcome = .error fault := by
        simp [Reply.map, ← houtcome, Except.map]
      refine ⟨_, hevents, .failed (.inr hstage) hcause ?_ (by simp [RunFault.failedStep])⟩
      simp [replies, stepsIn, hstage]
    · have hshows : run.Shows team
          [⟨.answer request, (team.solver request scene.outside).1.map .str⟩] none _ _ :=
        .solved answer hstage
      rw [hplan] at hshows
      exact ⟨_, hevents, hshows⟩

/-- Every transition shows what is told of what is said in it, if somebody follows the run. -/
theorem shows_advance (team : Team σ) (run : Run) (scene : Scene σ)
    (hwatched : run.task.watched = true) :
    ∃ shown, (run.advance team scene).scene.events = scene.events ++ shown ∧
      run.Shows team (run.utterances team scene.outside) (run.advance team scene).fault
        (run.advance team scene).run shown := by
  rw [advance]
  cases hstage : run.stage with
  | plan => exact shows_advancePlan team scene hwatched hstage
  | tool => exact shows_advanceTool team scene hwatched hstage
  | solve => exact shows_advanceSolve team scene hwatched hstage
  | done =>
    have hinquiry : run.inquiry team = .error (.routing "Run already finished") := by
      rw [inquiry, hstage]
    rw [utterances_of_silent _ hinquiry]
    exact ⟨[], by simp, .silent_of_none rfl⟩

variable {next : Run} {said : List Utterance} {shown : List Event}

/-- What a transition that fails shows is what is told of what is said in it. -/
theorem Shows.recount_of_fault {fault : RunFault}
    (h : run.Shows team said (some fault) next shown) : run.recount said = shown := by
  cases h with
  | unplanned hstage hplan => simp [recount, planIn, stepsIn, hstage, hplan]
  | failed hstage hcause =>
    rcases hstage with hstage | hstage <;>
      simp [recount, planIn, stepsIn, hstage, Step.recount_of_error _ _ hcause]
  | silent => exact recount_nil run

/-- Every reply in a transition that fails is one to its step. -/
theorem Shows.isFor_of_fault {fault : RunFault}
    (h : run.Shows team said (some fault) next shown) :
    ∀ reply ∈ run.replies said, reply.2.IsFor team reply.1 run.task.actor := by
  cases h with
  | unplanned hstage => simp [replies, stepsIn, hstage]
  | failed _ _ hfor => exact hfor
  | silent => simp

/-- What is told of a transition that succeeds comes before what is told of the rest. -/
theorem Shows.recount_append (h : run.Shows team said none next shown) (rest : List Utterance) :
    run.recount (said ++ rest) = shown ++ next.recount rest := by
  cases h with
  | @planned _ reply text plan hstage _ hreply hparse =>
    have hplan := Utterance.plan?_of_parse (.plan run.task) hreply hparse
    simp [recount, planIn, stepsIn, hstage, hplan]
  | @stepped plan step utterance value hstage hplan hstep _ hvalue =>
    have hsteps := stepsIn_step hstage hplan hstep (utterance :: rest)
    have hlater := stepsIn_keepOutput step (Step.output value) hplan rest
    have hstageNe : run.stage ≠ .plan := by simp [hstage]
    have hnone := planIn_of_ne_plan hstageNe (utterance :: rest)
    have hnone' := planIn_keepOutput run plan step (Step.output value) rest
    rw [List.singleton_append, recount, hsteps, hnone, recount, hlater, hnone', Step.recount,
      hvalue, List.append_assoc]
    rfl
  | solved answer hstage => simp [recount, planIn, stepsIn, hstage, Step.recount]

/-- Every reply from a transition that succeeds on is one to its step, if those after it are. -/
theorem Shows.isFor_append (h : run.Shows team said none next shown) (rest : List Utterance)
    (hrest : ∀ reply ∈ next.replies rest, reply.2.IsFor team reply.1 run.task.actor) :
    ∀ reply ∈ run.replies (said ++ rest), reply.2.IsFor team reply.1 run.task.actor := by
  cases h with
  | @planned _ reply text plan hstage _ hreply hparse =>
    have hplan := Utterance.plan?_of_parse (.plan run.task) hreply hparse
    have hsame : run.replies (⟨.plan run.task, reply⟩ :: rest) =
        { run with plan := some plan, stage := .tool }.replies rest := by
      simp [replies, planIn, stepsIn, hstage, hplan]
    rwa [List.singleton_append, hsame]
  | stepped hstage hplan hstep hfor =>
    rw [replies, stepsIn_keepOutput _ _ hplan] at hrest
    rw [List.singleton_append, replies, stepsIn_step hstage hplan hstep, List.zip_cons_cons]
    exact List.forall_mem_cons.mpr ⟨hfor, hrest⟩
  | solved _ hstage => simp [replies, stepsIn, hstage]

end Run

end Transitions

/-! ### A whole run -/

namespace Run

/-- The run that a run has come to by the transitions that succeeded. -/
def reached (run : Run) (trail : List Run) : Run :=
  trail.getLast?.getD run

/-- The plan that was written by the first of the transitions that succeeded. -/
def planned (run : Run) (trail : List Run) : Option Plan :=
  if run.stage = .plan then trail.head?.bind Run.plan else none

theorem reached_cons (run next : Run) (trail : List Run) :
    run.reached (next :: trail) = next.reached trail := by
  simp [reached, List.getLast?_cons]

/-- What a run that was driven to its end has shown: the plan that was written, and each step that
was carried out, numbered from the cursor at the beginning on. No number is too large for a
machine. -/
structure Tells (run : Run) (trail : List Run) (outcome : Except RunFault Run)
    (shown : List Event) : Prop where
  plans : shown.filterMap Event.plan? = (run.planned trail).toList
  indexes : shown.filterMap Event.index? =
    (List.range' (run.cursor + 1) ((run.reached trail).cursor - run.cursor)).map Json.nat
  cursor : run.cursor ≤ (run.reached trail).cursor
  counted : ∀ event ∈ shown, event.IsCounted
  failedStep : ∀ fault, outcome = .error fault → ∀ index ∈ fault.failedStep, index < 2 ^ 64
  final : ∀ final, outcome = .ok final → run.reached trail = final

variable {team : Team σ} {run next : Run} {said : List Utterance} {shown more : List Event}
  {trail : List Run} {outcome : Except RunFault Run}

/-- A plan of a brief planner has no more steps than a machine can count. -/
theorem Shows.size_lt (h : run.Shows team said none next shown) (hbrief : team.Brief)
    (hsize : run.size < 2 ^ 64) : next.size < 2 ^ 64 := by
  cases h with
  | planned _ htext _ hparse =>
    exact Nat.lt_of_le_of_lt (Plan.size_le_length_of_parse hparse) (hbrief _ _ _ htext)
  | stepped => exact hsize
  | solved => exact hsize

theorem Shows.counted {fault : Option RunFault} (h : run.Shows team said fault next shown)
    (hsize : run.size < 2 ^ 64) : ∀ event ∈ shown, event.IsCounted := by
  cases h with
  | planned => simp [Event.IsCounted]
  | unplanned => simp
  | @stepped plan step utterance value _ hplan hstep =>
    intro event hevent
    rcases List.mem_append.mp hevent with htoken | hevent
    · exact utterance.isCounted_tokens event htoken
    · obtain rfl := List.mem_singleton.mp hevent
      exact ⟨run.cursor + 1, step, Step.output value,
        Nat.lt_of_le_of_lt (cursor_lt_size hplan hstep) hsize, rfl⟩
  | @solved utterance => exact utterance.isCounted_tokens
  | @failed utterance => exact utterance.isCounted_tokens
  | silent => simp

/-- A run that does nothing more tells nothing more. -/
theorem tells_nil (h : ∀ fault, outcome = .error fault → fault.failedStep = none)
    (hfinal : ∀ final, outcome = .ok final → run = final) : run.Tells [] outcome [] where
  plans := by simp [planned]
  indexes := by simp [reached]
  cursor := Nat.le_refl _
  counted := by simp
  failedStep fault hfault index hindex := by simp [h fault hfault] at hindex
  final := hfinal

/-- A transition that fails tells at most tokens. -/
theorem Shows.tells_of_fault {fault : RunFault} (h : run.Shows team said (some fault) next shown)
    (hsize : run.size < 2 ^ 64) : run.Tells [] (.error fault) shown := by
  have hcounted := h.counted hsize
  have hindex : ∀ index ∈ fault.failedStep, index ≤ run.size := by
    cases h with
    | unplanned _ _ hfault => simp [hfault]
    | failed _ _ _ hindex => exact hindex
    | silent hindex => exact hindex
  have htokens : shown.filterMap Event.plan? = [] ∧ shown.filterMap Event.index? = [] := by
    cases h with
    | unplanned => exact ⟨rfl, rfl⟩
    | failed => simp
    | silent => exact ⟨rfl, rfl⟩
  exact {
    plans := by simp [Run.planned, htokens.1]
    indexes := by simp [reached, htokens.2]
    cursor := Nat.le_refl _
    counted := hcounted
    failedStep := by
      rintro fault ⟨⟩ index hfound
      exact Nat.lt_of_le_of_lt (hindex index hfound) hsize
    final := by simp }

/-- A range that is not empty begins with its first number. -/
theorem range'_of_lt {first last : Nat} (h : first < last) :
    List.range' (first + 1) (last - first) =
      (first + 1) :: List.range' (first + 2) (last - (first + 1)) := by
  have hlength : last - first = last - (first + 1) + 1 := by omega
  rw [hlength, List.range'_succ]

/-- A transition that succeeds tells what it shows, and then the rest is told. -/
theorem Tells.onward (hrest : next.Tells trail outcome more)
    (h : run.Shows team said none next shown) (hsize : run.size < 2 ^ 64) :
    run.Tells (next :: trail) outcome (shown ++ more) := by
  have hlater : more.filterMap Event.plan? = [] := by
    have hstage : next.stage ≠ .plan := by
      cases h with
      | planned => simp
      | stepped =>
        simp only [keepOutput]
        split <;> simp
      | solved => simp
    rw [hrest.plans, planned, if_neg hstage]
    rfl
  have hindexes := hrest.indexes
  have hcursor := hrest.cursor
  constructor
  · rw [List.filterMap_append, hlater, List.append_nil]
    cases h with
    | planned hstage => simp [planned, hstage]
    | stepped hstage => simp [planned, hstage]
    | solved _ hstage => simp [planned, hstage]
  · rw [reached_cons, List.filterMap_append, hindexes]
    cases h with
    | planned => simp
    | stepped =>
      rw [range'_of_lt hcursor]
      simp [keepOutput]
    | solved => simp
  · rw [reached_cons]
    cases h with
    | planned => exact hcursor
    | stepped => exact Nat.le_of_succ_le hcursor
    | solved => exact hcursor
  · intro event hevent
    rcases List.mem_append.mp hevent with hshown | hmore
    · exact h.counted hsize event hshown
    · exact hrest.counted event hmore
  · exact hrest.failedStep
  · rw [reached_cons]
    exact hrest.final

end Run

theorem Journey.events_leave (team : Team σ) (thread : String) (claimed : Bool) (scene : Scene σ) :
    (leave team thread claimed scene).events = scene.events := by
  cases claimed with
  | false => rfl
  | true =>
    simp only [leave, release, if_true]
    split
    · rfl
    · exact Scene.events_consult_unwatched _ scene

/-- A run that is followed to its end shows what is told of what its team says, and this tells the
plan that was written and the steps that were carried out. -/
theorem Run.Travels.tells {team : Team σ} {thread : String} {claimed : Bool} {run : Run}
    {scene after : Scene σ} {outcome : Except RunFault Run} (hbrief : team.Brief)
    (h : run.Travels team thread claimed scene outcome after) (hsize : run.size < 2 ^ 64)
    (hwatched : run.task.watched = true) :
    ∃ transcript,
      (∀ written, run.Drives (team.transcribed id) thread claimed (scene.outside, written) outcome
        (after.outside, written ++ transcript)) ∧
      (∀ reply ∈ run.replies transcript, reply.2.IsFor team reply.1 run.task.actor) ∧
      after.events = scene.events ++ run.recount transcript ∧
      run.Tells (run.trail team thread scene.outside) outcome (run.recount transcript) := by
  induction h with
  | @finished run scene hdone =>
    rw [trail_of_done hdone]
    refine ⟨[], fun written ↦ ?_, by simp, by simp, ?_⟩
    · rw [List.append_nil]
      exact .finished hdone
    · rw [recount_nil]
      exact tells_nil (by simp) (by simp)
  | @stopped run scene fault hdone hfault =>
    obtain ⟨shown, hevents, hshows⟩ := run.shows_advance team scene hwatched
    have hturn := turn_of_advance hfault
    rw [hfault] at hshows
    rw [trail_of_fault hturn, Journey.outside_leave]
    refine ⟨run.utterances team scene.outside, fun written ↦ ?_, hshows.isFor_of_fault, ?_, ?_⟩
    · simpa using Drives.transcribed_stopped id hdone hturn written
    · rw [hshows.recount_of_fault, Journey.events_leave, Journey.events_reportEnd, hevents]
    · rw [hshows.recount_of_fault]
      exact hshows.tells_of_fault hsize
  | @lost run scene after fault hdone hfault hrecord =>
    obtain ⟨shown, hevents, hshows⟩ := run.shows_advance team scene hwatched
    have hturn := turn_of_advance hfault
    have hkeep := Journey.keep_of_record hrecord
    have hkept := Journey.events_record team thread (run.advance team scene).run
      (run.advance team scene).scene
    rw [hfault] at hshows
    rw [hrecord] at hkept
    have hrecount := hshows.recount_append []
    have hfor := hshows.isFor_append [] (by simp)
    rw [List.append_nil, recount_nil] at hrecount
    rw [List.append_nil] at hfor
    rw [trail_of_lost hturn hkeep, Journey.outside_leave]
    have hnothing : (run.advance team scene).run.Tells [] (.error (.checkpoint fault)) [] :=
      tells_nil (by rintro _ ⟨⟩; rfl) (by simp)
    refine ⟨run.utterances team scene.outside, fun written ↦ ?_, hfor, ?_, ?_⟩
    · simpa using Drives.transcribed_lost id hdone hturn hkeep written
    · rw [hrecount, Journey.events_leave, hkept, hevents, List.append_nil]
    · rw [hrecount]
      exact hnothing.onward hshows hsize
  | @onward run scene kept after outcome hdone hfault hrecord _ ih =>
    obtain ⟨shown, hevents, hshows⟩ := run.shows_advance team scene hwatched
    have hturn := turn_of_advance hfault
    have hkeep := Journey.keep_of_record hrecord
    have hkept := Journey.events_record team thread (run.advance team scene).run
      (run.advance team scene).scene
    rw [hfault] at hshows
    rw [hrecord] at hkept
    have htask := task_of_turn hturn
    obtain ⟨transcript, hdrives, hfor, hafter, htells⟩ :=
      ih (hshows.size_lt hbrief hsize) (by rw [htask, hwatched])
    rw [htask] at hfor
    have hrecount := hshows.recount_append transcript
    rw [trail_of_keep hturn hkeep]
    refine ⟨run.utterances team scene.outside ++ transcript, fun written ↦ ?_,
      hshows.isFor_append _ hfor, ?_, ?_⟩
    · refine Drives.transcribed_onward id hdone hturn hkeep ?_
      rw [List.map_id, ← List.append_assoc]
      exact hdrives _
    · rw [hrecount, hafter, hkept, hevents, List.append_assoc]
    · rw [hrecount]
      exact htells.onward hshows hsize

end Errand
