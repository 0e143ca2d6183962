import Errand.Proofs.Checkpoint.Store
import Errand.Proofs.Run.Calls

/-!
# Collaborators that follow scripts

The collaborators of a `Scripted.team` follow scripts: the outcomes of their calls, in order,
whatever they are asked. A script that is used up fails. The vault of the team is a store in memory.

`Scripts.cleared` deletes the failing outcomes. `Clears` compares one call on scripts with the same
call on the cleared scripts: a call that succeeds takes the same outcome from both, and a call that
fails takes one from the first only, so that afterwards the scripts are cleared to the same again.
`turn_cleared_of_success` and `turn_cleared_of_fault` say so for transitions.
-/

set_option autoImplicit false

namespace Errand

variable {α β : Type}

/-! ### Scripts -/

/-- Whether an answer is one. -/
def Reply.succeeded (reply : Reply α) : Bool :=
  reply.outcome.isOk

/-- The number of failing outcomes of a script. -/
def failing (script : List (Reply α)) : Nat :=
  script.countP (!·.succeeded)

theorem Reply.succeeded_of_ok {reply : Reply α} {a : α} (h : reply.outcome = .ok a) :
    reply.succeeded = true := by
  simp [succeeded, h, Except.isOk, Except.toBool]

theorem Reply.succeeded_of_error {reply : Reply α} {fault : Fault}
    (h : reply.outcome = .error fault) : reply.succeeded = false := by
  simp [succeeded, h, Except.isOk, Except.toBool]

theorem failing_cons (reply : Reply α) (script : List (Reply α)) :
    failing (reply :: script) = failing script + if reply.succeeded then 0 else 1 := by
  cases hreply : reply.succeeded <;> simp [failing, hreply]

/-- What the collaborators of a run answer, call by call. -/
structure Scripts where
  /-- The plans. -/
  planner : List (Reply String)
  /-- What the language model says. -/
  oracle : List (Reply String)
  /-- The answers to the task. -/
  solver : List (Reply String)
  /-- The values of the operations, by name. -/
  operations : String → List (Reply Json)

namespace Scripts

/-- The scripts without their failing outcomes. -/
def cleared (scripts : Scripts) : Scripts where
  planner := scripts.planner.filter (·.succeeded)
  oracle := scripts.oracle.filter (·.succeeded)
  solver := scripts.solver.filter (·.succeeded)
  operations name := (scripts.operations name).filter (·.succeeded)

/-- The number of failing outcomes of operations. -/
def operationFailures (operations : String → List (Reply Json)) : List Operation.Info → Nat
  | [] => 0
  | info :: catalog => failing (operations info.name) + operationFailures operations catalog

/-- The number of failing outcomes, given the operations that are registered. -/
def failures (catalog : List Operation.Info) (scripts : Scripts) : Nat :=
  failing scripts.planner + failing scripts.oracle + failing scripts.solver +
    operationFailures scripts.operations catalog

/-- One of the scripts, and how another one takes its place. -/
structure Part (α : Type) where
  /-- The script. -/
  get : Scripts → List (Reply α)
  /-- The scripts with another script in place of this one. -/
  set : List (Reply α) → Scripts → Scripts
  set_get : ∀ scripts, set (get scripts) scripts = scripts
  get_cleared : ∀ scripts, get scripts.cleared = (get scripts).filter (·.succeeded)
  cleared_set : ∀ script scripts,
    (set script scripts).cleared = set (script.filter (·.succeeded)) scripts.cleared

namespace Part

/-- The script of the planner. -/
def planner : Part String where
  get := Scripts.planner
  set script scripts := { scripts with planner := script }
  set_get _ := rfl
  get_cleared _ := rfl
  cleared_set _ _ := rfl

/-- The script of the language model. -/
def oracle : Part String where
  get := Scripts.oracle
  set script scripts := { scripts with oracle := script }
  set_get _ := rfl
  get_cleared _ := rfl
  cleared_set _ _ := rfl

/-- The script of the solver. -/
def solver : Part String where
  get := Scripts.solver
  set script scripts := { scripts with solver := script }
  set_get _ := rfl
  get_cleared _ := rfl
  cleared_set _ _ := rfl

/-- The script of an operation. -/
def operation (name : String) : Part Json where
  get scripts := scripts.operations name
  set script scripts := { scripts with
    operations := Function.update scripts.operations name script }
  set_get scripts := by simp
  get_cleared _ := rfl
  cleared_set script scripts := by
    simp only [cleared, Scripts.mk.injEq, true_and]
    funext other
    by_cases hother : other = name
    · subst hother
      simp
    · simp [hother]

/-- Whether the failing outcomes of a script are among those that are counted. -/
def Counted (catalog : List Operation.Info) (part : Part α) : Prop :=
  ∀ script scripts, failing script ≤ failing (part.get scripts) →
    failures catalog (part.set script scripts) + failing (part.get scripts) ≤
      failures catalog scripts + failing script

theorem counted_planner (catalog : List Operation.Info) : planner.Counted catalog := by
  intro script scripts _
  simp only [failures, planner]
  omega

theorem counted_oracle (catalog : List Operation.Info) : oracle.Counted catalog := by
  intro script scripts _
  simp only [failures, oracle]
  omega

theorem counted_solver (catalog : List Operation.Info) : solver.Counted catalog := by
  intro script scripts _
  simp only [failures, solver]
  omega

theorem operationFailures_update {name : String} {script : List (Reply Json)}
    {operations : String → List (Reply Json)}
    (hle : failing script ≤ failing (operations name)) (catalog : List Operation.Info) :
    operationFailures (Function.update operations name script) catalog ≤
        operationFailures operations catalog ∧
      ((∃ info ∈ catalog, info.name = name) →
        operationFailures (Function.update operations name script) catalog +
            failing (operations name) ≤
          operationFailures operations catalog + failing script) := by
  induction catalog with
  | nil => simp [operationFailures]
  | cons info catalog ih =>
    obtain ⟨hsum, hmem⟩ := ih
    by_cases hname : info.name = name
    · subst hname
      simp only [operationFailures, Function.update_self]
      constructor
      · omega
      · intro _
        omega
    · simp only [operationFailures, Function.update_of_ne hname]
      constructor
      · omega
      · rintro ⟨other, hother, hfound⟩
        rcases List.mem_cons.mp hother with rfl | hother
        · exact absurd hfound hname
        · have hrest := hmem ⟨other, hother, hfound⟩
          omega

theorem counted_operation {catalog : List Operation.Info} {name : String}
    (hname : ∃ info ∈ catalog, info.name = name) : (operation name).Counted catalog := by
  intro script scripts hle
  have hsum := (@operationFailures_update name script scripts.operations hle catalog).2 hname
  simp only [failures, operation]
  omega

end Part

end Scripts

/-- Why a run stops, given what was asked when it did and the numbers of failing outcomes before and
after: the call used up one of them, or the undisturbed run stops too. -/
inductive Run.Stops {σ : Type} (team : Team σ) (run : Run) (clear : σ) :
    List Consultation → Nat → Nat → Prop
  /-- The call used up a failing outcome. -/
  | refused {inquiry : Inquiry} {refusal : Fault} {before after : Nat}
      (hinquiry : run.inquiry team = .ok inquiry) (hless : after < before) :
      Stops team run clear [⟨inquiry, .error refusal⟩] before after
  /-- The undisturbed run stops too. -/
  | alike {failed : List Consultation} {before after : Nat} {fault : RunFault}
      (hfault : (run.turn team clear).1 = some fault) : Stops team run clear failed before after

/-- A run stops at a failing outcome if the undisturbed run goes on. -/
theorem Run.Stops.of_success {σ : Type} {team : Team σ} {run : Run} {clear : σ}
    {failed : List Consultation} {before after : Nat} (h : run.Stops team clear failed before after)
    (hnone : (run.turn team clear).1 = none) :
    ∃ inquiry refusal, run.inquiry team = .ok inquiry ∧ failed = [⟨inquiry, .error refusal⟩] ∧
      after < before := by
  cases h with
  | refused hinquiry hless => exact ⟨_, _, hinquiry, rfl, hless⟩
  | alike hfault => simp [hnone] at hfault

/-! ### Teams that follow scripts -/

/-- Everything outside of a run whose collaborators follow scripts. -/
structure Scripted where
  /-- What is left of the scripts. -/
  scripts : Scripts
  /-- The runs that are kept. -/
  store : Checkpoint.Store := {}

namespace Scripted

/-- The call of a collaborator that follows a script. -/
def follow (part : Scripts.Part α) : Consult Scripted α := fun outside ↦
  match part.get outside.scripts with
  | [] => ({ outcome := .error (.internal "The script is used up") }, outside)
  | reply :: rest => (reply, { outside with scripts := part.set rest outside.scripts })

/-- A call of the store of runs. -/
def inStore (call : Consult Checkpoint.Store α) : Consult Scripted α := fun outside ↦
  ((call outside.store).1, { outside with store := (call outside.store).2 })

/-- The store of runs as a vault. -/
def vault : Vault Scripted where
  save thread run := inStore (Checkpoint.Store.vault.save thread run)
  load thread := inStore (Checkpoint.Store.vault.load thread)
  claim thread := inStore (Checkpoint.Store.vault.claim thread)
  release thread := inStore (Checkpoint.Store.vault.release thread)
  delete thread := inStore (Checkpoint.Store.vault.delete thread)

/-- The team that follows scripts, with a vault or without one. -/
def team (catalog : List Operation.Info) (input : SolverInput) (stored : Bool) :
    Team Scripted where
  planner _ := follow .planner
  oracle _ := follow .oracle
  solver _ := follow .solver
  registry :=
    { operations := catalog.map fun info ↦
        { info, invoke := fun _ _ ↦ follow (.operation info.name) } }
  vault := if stored then some vault else none
  solverInput := input

/-! ### One call -/

/-- How a call on scripts and the same call on the cleared scripts compare. -/
structure Clears (catalog : List Operation.Info) (call : Consult Scripted α) : Prop where
  /-- No call touches the runs that are kept. -/
  store : ∀ outside, (call outside).2.store = outside.store
  /-- A call that succeeds takes the same outcome from both. -/
  succeeds : ∀ {outside clear : Scripted} {a : α}, clear.scripts = outside.scripts.cleared →
    (call outside).1.outcome = .ok a →
      (call clear).1.outcome = .ok a ∧
        (call clear).2.scripts = (call outside).2.scripts.cleared ∧
        (call outside).2.scripts.failures catalog ≤ outside.scripts.failures catalog
  /-- A call that fails takes an outcome from the first only, if there is one. -/
  fails : ∀ {outside clear : Scripted} {fault : Fault}, clear.scripts = outside.scripts.cleared →
    (call outside).1.outcome = .error fault →
      clear.scripts = (call outside).2.scripts.cleared ∧
        ((call outside).2.scripts.failures catalog < outside.scripts.failures catalog ∨
          ∃ fault', (call clear).1.outcome = .error fault')

variable {catalog : List Operation.Info}

theorem clears_follow {part : Scripts.Part α} (hpart : part.Counted catalog) :
    Clears catalog (follow part) where
  store outside := by
    unfold follow
    split <;> rfl
  succeeds {outside clear a} hclear hok := by
    have hget := part.get_cleared outside.scripts
    rw [← hclear] at hget
    cases hscript : part.get outside.scripts with
    | nil => simp [follow, hscript] at hok
    | cons reply rest =>
      simp only [follow, hscript] at hok
      have hreply := Reply.succeeded_of_ok hok
      have hfailing := failing_cons reply rest
      rw [if_pos hreply, Nat.add_zero] at hfailing
      have hcount := hpart rest outside.scripts (Nat.le_of_eq (by rw [hscript, hfailing]))
      rw [hscript, hfailing] at hcount
      rw [hscript, List.filter_cons_of_pos hreply] at hget
      simp only [follow, hscript, hget]
      refine ⟨hok, ?_, by omega⟩
      rw [part.cleared_set, hclear]
  fails {outside clear fault} hclear herror := by
    have hget := part.get_cleared outside.scripts
    rw [← hclear] at hget
    cases hscript : part.get outside.scripts with
    | nil =>
      rw [hscript, List.filter_nil] at hget
      simp only [follow, hscript, hget]
      exact ⟨hclear, .inr ⟨_, rfl⟩⟩
    | cons reply rest =>
      simp only [follow, hscript] at herror
      have hreply := Reply.succeeded_of_error herror
      have hfailing := failing_cons reply rest
      rw [hreply, if_neg (by decide)] at hfailing
      have hcount := hpart rest outside.scripts (by rw [hscript, hfailing]; omega)
      rw [hscript, hfailing] at hcount
      rw [hscript, List.filter_cons_of_neg (by simp [hreply])] at hget
      simp only [follow, hscript]
      refine ⟨?_, .inl (by omega)⟩
      rw [part.cleared_set, ← hget, ← hclear, part.set_get]

theorem clears_fail (fault : Fault) :
    Clears catalog (Consult.fail fault : Consult Scripted α) where
  store _ := rfl
  succeeds _ hok := by simp [Consult.fail, Consult.answer] at hok
  fails hclear _ := ⟨hclear, .inr ⟨fault, rfl⟩⟩

theorem Clears.map {call : Consult Scripted α} (h : Clears catalog call) (f : α → β) :
    Clears catalog (f <$> call) where
  store outside := by
    rw [Consult.outside_map]
    exact h.store outside
  succeeds {outside clear b} hclear hok := by
    rw [Consult.outcome_map] at hok ⊢
    simp only [Consult.outside_map]
    cases houtcome : (call outside).1.outcome with
    | error fault => simp [houtcome, Except.map] at hok
    | ok a =>
      obtain ⟨hsame, hscripts, hcount⟩ := h.succeeds hclear houtcome
      rw [houtcome] at hok
      exact ⟨by rw [hsame, hok], hscripts, hcount⟩
  fails {outside clear fault} hclear herror := by
    rw [Consult.outcome_map] at herror
    simp only [Consult.outside_map, Consult.outcome_map]
    cases houtcome : (call outside).1.outcome with
    | ok a => simp [houtcome, Except.map] at herror
    | error fault' =>
      obtain ⟨hscripts, hcount | ⟨fault'', hfault⟩⟩ := h.fails hclear houtcome
      · exact ⟨hscripts, .inl hcount⟩
      · exact ⟨hscripts, .inr ⟨fault'', by rw [hfault]; rfl⟩⟩

/-- Whatever a team that follows scripts is asked, the cleared scripts answer it too, unless the
answer has been deleted. -/
theorem clears_ask (catalog : List Operation.Info) (input : SolverInput) (stored : Bool)
    (inquiry : Inquiry) : Clears catalog ((team catalog input stored).ask inquiry) := by
  cases inquiry with
  | plan task => exact (clears_follow (Scripts.Part.counted_planner catalog)).map Json.str
  | prompt text => exact (clears_follow (Scripts.Part.counted_oracle catalog)).map Json.str
  | answer request => exact (clears_follow (Scripts.Part.counted_solver catalog)).map Json.str
  | operation name parameters context =>
    cases hget : (team catalog input stored).registry.get? name with
    | none =>
      simp only [Team.ask, hget]
      exact clears_fail (.notFound name)
    | some operation =>
      have hfound := List.find?_some hget
      obtain ⟨info, hinfo, rfl⟩ := List.mem_map.mp (List.mem_of_find?_eq_some hget)
      obtain rfl : info.name = name := by simpa [Operation.name] using hfound
      simp only [Team.ask, hget]
      exact clears_follow (Scripts.Part.counted_operation ⟨info, hinfo, rfl⟩)

/-- The vault does not matter for what a team answers. -/
theorem ask_team (catalog : List Operation.Info) (input : SolverInput) (stored stored' : Bool)
    (inquiry : Inquiry) :
    (team catalog input stored).ask inquiry = (team catalog input stored').ask inquiry := by
  cases inquiry <;> rfl

/-! ### One transition -/

variable {input : SolverInput} {stored : Bool} {run next : Run}
variable {outside after clear : Scripted}

/-- No transition touches the runs that are kept. -/
theorem store_turn (catalog : List Operation.Info) (input : SolverInput) (stored : Bool) (run : Run)
    (outside : Scripted) :
    (run.turn (team catalog input stored) outside).2.2.store = outside.store := by
  cases hinquiry : run.inquiry (team catalog input stored) with
  | error fault => rw [Run.turn_of_silent outside hinquiry]
  | ok inquiry =>
    have hstore := (clears_ask catalog input stored inquiry).store outside
    rw [Run.turn_of_asked outside hinquiry]
    cases ((team catalog input stored).ask inquiry outside).1.outcome with
    | error fault => exact hstore
    | ok value =>
      dsimp only
      cases run.settle value <;> exact hstore

/-- An inquiry once begun cannot fail for want of a plan; only the text of a plan can be refused. -/
theorem exists_settle {team : Team Scripted} {inquiry : Inquiry} (hstage : run.stage ≠ .plan)
    (hinquiry : run.inquiry team = .ok inquiry) (value : Json) :
    ∃ next, run.settle value = .ok next := by
  cases Run.asks_of_inquiry hinquiry with
  | plan hplan => exact absurd hplan hstage
  | step step htool hstep =>
    obtain ⟨plan, hplan, -⟩ := Run.currentStep_eq_ok hstep
    exact ⟨_, Run.settle_tool value htool hplan hstep⟩
  | answer _ hsolve => simp [Run.settle, hsolve]

/-- A transition that succeeds on scripts succeeds on the cleared scripts and does the same. -/
theorem turn_cleared_of_success (stored' : Bool)
    (hclear : clear.scripts = outside.scripts.cleared)
    (hturn : run.turn (team catalog input stored) outside = (none, next, after)) :
    ∃ inquiry value cleared,
      run.consultations (team catalog input stored) outside = [⟨inquiry, .ok value⟩] ∧
      run.consultations (team catalog input stored') clear = [⟨inquiry, .ok value⟩] ∧
      run.turn (team catalog input stored') clear = (none, next, cleared) ∧
      cleared.scripts = after.scripts.cleared ∧
      after.scripts.failures catalog ≤ outside.scripts.failures catalog := by
  obtain ⟨inquiry, value, hinquiry, houtcome, hsettle, rfl⟩ := Run.turn_of_success hturn
  have hclears := clears_ask catalog input stored inquiry
  obtain ⟨hsame, hscripts, hcount⟩ := hclears.succeeds hclear houtcome
  have hinquiry' : run.inquiry (team catalog input stored') = .ok inquiry := hinquiry
  rw [ask_team catalog input stored stored' inquiry] at hsame hscripts
  refine ⟨inquiry, value, ((team catalog input stored').ask inquiry clear).2, ?_, ?_, ?_, ?_,
    hcount⟩
  · simp [Run.consultations, hinquiry, houtcome]
  · simp [Run.consultations, hinquiry', hsame]
  · rw [Run.turn_of_asked clear hinquiry', hsame]
    simp only [hsettle]
  · rw [hscripts, ask_team catalog input stored stored' inquiry]

/-- A transition that fails on scripts leaves the same cleared scripts, and has used up a failing
outcome, or fails on the cleared scripts too. A plan may also be refused for its text. -/
theorem turn_cleared_of_fault {fault : RunFault} (stored' : Bool) (hstage : run.stage ≠ .plan)
    (hclear : clear.scripts = outside.scripts.cleared)
    (hturn : run.turn (team catalog input stored) outside = (some fault, next, after)) :
    clear.scripts = after.scripts.cleared ∧
      run.Stops (team catalog input stored') clear
        (run.consultations (team catalog input stored) outside)
        (outside.scripts.failures catalog) (after.scripts.failures catalog) := by
  cases hinquiry : run.inquiry (team catalog input stored) with
  | error silence =>
    have hinquiry' : run.inquiry (team catalog input stored') = .error silence := hinquiry
    rw [Run.turn_of_silent outside hinquiry] at hturn
    cases hturn
    exact ⟨hclear, .alike (by rw [Run.turn_of_silent clear hinquiry'])⟩
  | ok inquiry =>
    have hinquiry' : run.inquiry (team catalog input stored') = .ok inquiry := hinquiry
    have hclears := clears_ask catalog input stored inquiry
    rw [Run.turn_of_asked outside hinquiry] at hturn
    cases houtcome : ((team catalog input stored).ask inquiry outside).1.outcome with
    | ok value =>
      obtain ⟨next', hsettle⟩ := exists_settle hstage hinquiry value
      simp [houtcome, hsettle] at hturn
    | error refusal =>
      simp only [houtcome, Prod.mk.injEq] at hturn
      obtain ⟨-, -, rfl⟩ := hturn
      obtain ⟨hscripts, hcount⟩ := hclears.fails hclear houtcome
      refine ⟨hscripts, ?_⟩
      rcases hcount with hcount | ⟨fault', hfault⟩
      · have hcall : run.consultations (team catalog input stored) outside =
            [⟨inquiry, .error refusal⟩] := by
          simp [Run.consultations, hinquiry, houtcome]
        rw [hcall]
        exact .refused hinquiry' hcount
      · rw [ask_team catalog input stored stored' inquiry] at hfault
        exact .alike (by rw [Run.turn_of_asked clear hinquiry', hfault])

end Scripted

end Errand
