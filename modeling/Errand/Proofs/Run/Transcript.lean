import Errand.Proofs.Run.Driving

/-!
# Teams that write down what is said

`Team.transcribed` is a team whose planner, language model, solver and operations write something
down whenever they have replied. What they write down may depend on the inquiry and on the whole
reply (`Utterance`), with the tokens that were sent before it. Nothing else changes: the team
replies as before (`ask_transcribed`), and `turn_transcribed` says what a transition adds to what
was written. `Drives.transcribed_onward` and its like say the same of runs that are driven to their
end.

`Run.recount` is what somebody who follows a run should be told of the transcript of its team: the
plan, and reply by reply the tokens and the step that was carried out (`Step.account`).
-/

set_option autoImplicit false

namespace Errand

variable {σ α ε : Type}

/-- What a collaborator of a run was asked, and its reply. -/
structure Utterance where
  /-- What was asked. -/
  inquiry : Inquiry
  /-- The reply. -/
  reply : Reply Json

namespace Consult

/-- A call whose reply is written down. -/
def transcribed (entry : Reply α → ε) (call : Consult σ α) : Consult (σ × List ε) α :=
  fun (outside, written) ↦
    ((call outside).1, (call outside).2, written ++ [entry (call outside).1])

/-- A call that is not written down. -/
def untranscribed (call : Consult σ α) : Consult (σ × List ε) α := fun (outside, written) ↦
  ((call outside).1, (call outside).2, written)

end Consult

/-- A vault whose calls are not written down. -/
def Vault.untranscribed (vault : Vault σ) : Vault (σ × List ε) where
  save thread run := (vault.save thread run).untranscribed
  load thread := (vault.load thread).untranscribed
  claim thread := (vault.claim thread).untranscribed
  release thread := (vault.release thread).untranscribed
  delete thread := (vault.delete thread).untranscribed

/-- An operation that writes down what it was asked and its reply. -/
def Operation.transcribed (entry : Utterance → ε) (operation : Operation σ) :
    Operation (σ × List ε) where
  info := operation.info
  invoke parameters context := (operation.invoke parameters context).transcribed fun reply ↦
    entry ⟨.operation operation.name parameters context, reply⟩

/-- A team that writes down what it was asked and its replies. -/
def Team.transcribed (entry : Utterance → ε) (team : Team σ) : Team (σ × List ε) where
  planner task := (team.planner task).transcribed fun reply ↦ entry ⟨.plan task, reply.map .str⟩
  oracle text := (team.oracle text).transcribed fun reply ↦ entry ⟨.prompt text, reply.map .str⟩
  solver request := (team.solver request).transcribed fun reply ↦
    entry ⟨.answer request, reply.map .str⟩
  registry := { operations := team.registry.operations.map (Operation.transcribed entry) }
  vault := team.vault.map Vault.untranscribed
  solverInput := team.solverInput

/-! ### What can be asked -/

/-- Whether an inquiry can be put to a team: an operation has to be registered. -/
def Team.Knows (team : Team σ) : Inquiry → Prop
  | .operation name _ _ => team.registry.contains name
  | _ => True

theorem Step.knows_of_inquiry {team : Team σ} {step : Step} {input : String}
    {context : Operation.Context} {inquiry : Inquiry}
    (h : step.inquiry team.registry input context = .ok inquiry) : team.Knows inquiry := by
  unfold Step.inquiry at h
  split at h
  · cases h
    trivial
  · split at h
    · next hcontains =>
      cases hparse : Json.parse input with
      | error flaw => simp [hparse] at h
      | ok parameters =>
        simp only [hparse] at h
        cases h
        exact hcontains
    · cases h

/-- A run only asks what can be put to its team. -/
theorem Run.knows_of_inquiry {team : Team σ} {run : Run} {inquiry : Inquiry}
    (h : run.inquiry team = .ok inquiry) : team.Knows inquiry := by
  cases asks_of_inquiry h with
  | plan => trivial
  | step step _ _ hask => exact Step.knows_of_inquiry hask
  | answer => trivial

/-! ### What is written down -/

section Transcribed

variable (entry : Utterance → ε)

@[simp] theorem Registry.contains_transcribed (team : Team σ) (name : String) :
    (team.transcribed entry).registry.contains name = team.registry.contains name := by
  simp [Registry.contains, Team.transcribed, List.any_map, Function.comp_def,
    Operation.transcribed, Operation.name]

theorem Registry.get?_transcribed (team : Team σ) (name : String) :
    (team.transcribed entry).registry.get? name =
      (team.registry.get? name).map (Operation.transcribed entry) := by
  simp only [Registry.get?, Team.transcribed, List.find?_map]
  rfl

/-- A team that writes down its replies replies as before. -/
theorem Team.ask_transcribed {team : Team σ} {inquiry : Inquiry} (hknows : team.Knows inquiry)
    (outside : σ) (written : List ε) :
    (team.transcribed entry).ask inquiry (outside, written) =
      ((team.ask inquiry outside).1, (team.ask inquiry outside).2,
        written ++ [entry ⟨inquiry, (team.ask inquiry outside).1⟩]) := by
  cases inquiry with
  | plan task => simp [ask, transcribed, Consult.transcribed, Consult.map_apply]
  | prompt text => simp [ask, transcribed, Consult.transcribed, Consult.map_apply]
  | answer request => simp [ask, transcribed, Consult.transcribed, Consult.map_apply]
  | operation name parameters context =>
    simp only [Knows, Registry.contains_eq_isSome] at hknows
    obtain ⟨operation, hget⟩ := Option.isSome_iff_exists.mp hknows
    obtain rfl : operation.name = name := by
      simpa using List.find?_some hget
    simp only [ask, Registry.get?_transcribed, hget, Option.map_some]
    rfl

theorem Team.keep_transcribed (team : Team σ) (thread : String) (run : Run) (outside : σ)
    (written : List ε) :
    (team.transcribed entry).keep thread run (outside, written) =
      ((team.keep thread run outside).1, (team.keep thread run outside).2, written) := by
  unfold Team.keep
  cases hvault : team.vault with
  | none => simp [transcribed, hvault]
  | some vault =>
    by_cases hdone : run.isDone <;>
      simp [transcribed, hvault, hdone, Vault.untranscribed, Consult.untranscribed]

theorem Team.giveBack_transcribed (team : Team σ) (thread : String) (claimed : Bool) (outside : σ)
    (written : List ε) :
    (team.transcribed entry).giveBack thread claimed (outside, written) =
      (team.giveBack thread claimed outside, written) := by
  unfold Team.giveBack
  cases claimed <;> cases hvault : team.vault <;>
    simp [transcribed, hvault, Vault.untranscribed, Consult.untranscribed]

namespace Run

theorem inquiry_transcribed (team : Team σ) (run : Run) :
    run.inquiry (team.transcribed entry) = run.inquiry team := by
  unfold Run.inquiry Step.inquiry
  simp only [Registry.contains_transcribed]
  rfl

/-- What is said in a transition: the reply to the inquiry of the run, if there is one. -/
def utterances (team : Team σ) (run : Run) (outside : σ) : List Utterance :=
  match run.inquiry team with
  | .error _ => []
  | .ok inquiry => [⟨inquiry, (team.ask inquiry outside).1⟩]

theorem utterances_of_silent {team : Team σ} {run : Run} {fault : RunFault} (outside : σ)
    (h : run.inquiry team = .error fault) : run.utterances team outside = [] := by
  rw [utterances, h]

theorem utterances_of_asked {team : Team σ} {run : Run} {inquiry : Inquiry} (outside : σ)
    (h : run.inquiry team = .ok inquiry) :
    run.utterances team outside = [⟨inquiry, (team.ask inquiry outside).1⟩] := by
  rw [utterances, h]

/-- Writing down what is said changes nothing about a transition. -/
theorem turn_transcribed (team : Team σ) (run : Run) (outside : σ) (written : List ε) :
    run.turn (team.transcribed entry) (outside, written) =
      ((run.turn team outside).1, (run.turn team outside).2.1, (run.turn team outside).2.2,
        written ++ (run.utterances team outside).map entry) := by
  have hsame := inquiry_transcribed entry team run
  cases hinquiry : run.inquiry team with
  | error fault =>
    rw [turn_of_silent _ hinquiry, turn_of_silent _ (hsame.trans hinquiry),
      utterances_of_silent _ hinquiry]
    simp
  | ok inquiry =>
    rw [turn_of_asked _ hinquiry, turn_of_asked _ (hsame.trans hinquiry),
      utterances_of_asked _ hinquiry, Team.ask_transcribed entry (knows_of_inquiry hinquiry)]
    cases (team.ask inquiry outside).1.outcome with
    | error fault => rfl
    | ok value =>
      dsimp only
      cases run.settle value <;> rfl

/-! ### Driven runs -/

variable {team : Team σ} {thread : String} {claimed : Bool} {run next : Run}
  {outside between kept after : σ} {outcome : Except RunFault Run} {written written' : List ε}

theorem Drives.transcribed_stopped {fault : RunFault} (hdone : run.stage ≠ .done)
    (hturn : run.turn team outside = (some fault, next, after)) (written : List ε) :
    run.Drives (team.transcribed entry) thread claimed (outside, written) (.error fault)
      (team.giveBack thread claimed after,
        written ++ (run.utterances team outside).map entry) := by
  rw [← Team.giveBack_transcribed entry]
  exact .stopped hdone (by rw [turn_transcribed, hturn])

theorem Drives.transcribed_lost {fault : Fault} (hdone : run.stage ≠ .done)
    (hturn : run.turn team outside = (none, next, between))
    (hkeep : team.keep thread next between = (.error fault, after)) (written : List ε) :
    run.Drives (team.transcribed entry) thread claimed (outside, written)
      (.error (.checkpoint fault))
      (team.giveBack thread claimed after,
        written ++ (run.utterances team outside).map entry) := by
  rw [← Team.giveBack_transcribed entry]
  exact .lost hdone (by rw [turn_transcribed, hturn]) (by rw [Team.keep_transcribed, hkeep])

theorem Drives.transcribed_onward (hdone : run.stage ≠ .done)
    (hturn : run.turn team outside = (none, next, between))
    (hkeep : team.keep thread next between = (.ok (), kept))
    (hrest : next.Drives (team.transcribed entry) thread claimed
      (kept, written ++ (run.utterances team outside).map entry) outcome (after, written')) :
    run.Drives (team.transcribed entry) thread claimed (outside, written) outcome
      (after, written') :=
  .onward hdone (by rw [turn_transcribed, hturn]) (by rw [Team.keep_transcribed, hkeep]) hrest

end Run

end Transcribed

/-! ### What is told of a transcript -/

namespace Utterance

/-- The tokens of a reply, as they are told. -/
def tokens (utterance : Utterance) : List Event :=
  utterance.reply.tokens.map Event.token

/-- The plan that is read from a reply. -/
def plan? (utterance : Utterance) : Option Plan :=
  match utterance.reply.outcome with
  | .ok (.str text) => (Plan.parse text).toOption
  | _ => none

theorem plan?_of_parse {reply : Reply Json} {text : String} {plan : Plan} (inquiry : Inquiry)
    (hreply : reply.outcome = .ok (.str text)) (hparse : Plan.parse text = .ok plan) :
    plan? ⟨inquiry, reply⟩ = some plan := by
  simp [plan?, hreply, hparse, Except.toOption]

/-- Whether what was asked is what a step asks a team for somebody, given some input. -/
def IsFor (team : Team σ) (step : Step) (actor : String) (utterance : Utterance) : Prop :=
  ∃ input, step.inquiry team.registry input { actor } = .ok utterance.inquiry

end Utterance

namespace Step

/-- What is told of a step that was carried out: its number, its title, the operation that it names,
and the text of what counts of the value that came back. -/
def account (step : Step) (number : Nat) (value : Json) : Event :=
  .step step.id (.obj [("index", .nat number), ("title", .str step.title),
    ("operation", .str step.operation),
    ("result", .str ((value.field? "content").getD value).pretty)])

/-- What is told of the replies to some steps, numbered from `number` on, and of those that come
after the steps: the tokens of each reply, and then the step, if its reply has a value. Nothing is
told after a step that failed. -/
def recount : Nat → List Step → List Utterance → List Event
  | _, _, [] => []
  | number, [], utterance :: rest => utterance.tokens ++ recount number [] rest
  | number, step :: steps, utterance :: rest =>
    utterance.tokens ++
      match utterance.reply.outcome with
      | .error _ => []
      | .ok value => step.account number value :: recount (number + 1) steps rest

@[simp] theorem recount_nil (number : Nat) (steps : List Step) : recount number steps [] = [] := by
  cases steps <;> rfl

theorem recount_of_error {utterance : Utterance} {fault : Fault} (number : Nat)
    (steps : List Step) (h : utterance.reply.outcome = .error fault) :
    recount number steps [utterance] = utterance.tokens := by
  cases steps <;> simp [recount, h]

end Step

namespace Run

/-- The plan that is written while a run is driven, if one is to be written and can be read. -/
def planIn (run : Run) (transcript : List Utterance) : Option Plan :=
  match run.stage with
  | .plan => transcript.head?.bind Utterance.plan?
  | .tool | .solve | .done => none

/-- The steps that a run is to carry out, from the one at the cursor on, and what is said once there
is a plan. -/
def stepsIn (run : Run) (transcript : List Utterance) : List Step × List Utterance :=
  match run.stage with
  | .plan => (((run.planIn transcript).elim [] Plan.steps).drop run.cursor, transcript.tail)
  | .tool => ((run.plan.elim [] Plan.steps).drop run.cursor, transcript)
  | .solve | .done => ([], transcript)

/-- The steps that are carried out while a run is driven, each with the reply to it. -/
def replies (run : Run) (transcript : List Utterance) : List (Step × Utterance) :=
  (run.stepsIn transcript).1.zip (run.stepsIn transcript).2

/-- What somebody who follows a run is told of what is said while it is driven: the plan if one is
written, and then the replies to the steps, which are numbered on from the cursor, and to whatever
is asked after them. The tokens of the planner are not told. -/
def recount (run : Run) (transcript : List Utterance) : List Event :=
  (run.planIn transcript).toList.map .plan ++
    Step.recount (run.cursor + 1) (run.stepsIn transcript).1 (run.stepsIn transcript).2

@[simp] theorem recount_nil (run : Run) : run.recount [] = [] := by
  cases hstage : run.stage <;> simp [recount, planIn, stepsIn, hstage]

@[simp] theorem replies_nil (run : Run) : run.replies [] = [] := by
  cases hstage : run.stage <;> simp [replies, stepsIn, hstage]

theorem planIn_of_ne_plan {run : Run} (h : run.stage ≠ .plan) (transcript : List Utterance) :
    run.planIn transcript = none := by
  cases hstage : run.stage <;> simp_all [planIn]

theorem planIn_keepOutput (run : Run) (plan : Plan) (step : Step) (output : String)
    (transcript : List Utterance) :
    (run.keepOutput plan step output).planIn transcript = none := by
  refine planIn_of_ne_plan ?_ transcript
  simp only [keepOutput]
  split <;> simp

/-- A run that is to carry out a step begins with the step at the cursor. -/
theorem stepsIn_step {run : Run} {plan : Plan} {step : Step} (hstage : run.stage = .tool)
    (hplan : run.plan = some plan) (hstep : plan.steps[run.cursor]? = some step)
    (transcript : List Utterance) :
    run.stepsIn transcript = (step :: plan.steps.drop (run.cursor + 1), transcript) := by
  obtain ⟨hlt, rfl⟩ := List.getElem?_eq_some_iff.mp hstep
  rw [← List.drop_eq_getElem_cons hlt, stepsIn, hstage, hplan]
  rfl

/-- A run that has kept the output of a step goes on with the steps after it. -/
theorem stepsIn_keepOutput {run : Run} {plan : Plan} (step : Step) (output : String)
    (hplan : run.plan = some plan) (transcript : List Utterance) :
    (run.keepOutput plan step output).stepsIn transcript =
      (plan.steps.drop (run.cursor + 1), transcript) := by
  by_cases hlast : plan.size ≤ run.cursor + 1
  · rw [List.drop_eq_nil_iff.mpr hlast]
    simp [stepsIn, keepOutput, hlast]
  · simp [stepsIn, keepOutput, hlast, hplan]

end Run

end Errand
