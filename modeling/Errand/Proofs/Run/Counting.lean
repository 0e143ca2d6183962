import Errand.Proofs.Run.Ledger

/-!
# The counters of runs and steps

The value of a counter is the number of its samples. `Counts drives before after` says that between
two scenes the counters of runs and of steps grow by what some driven runs come to: one for every
step that was dispatched, under its operation and how it ended, and one for every run, under how it
ended. A run that could not be kept is left out, so the runs that are counted as failed can be fewer
than those that failed (`drive_uncounted`).

`drives_counted` says that this holds of every run that is driven to its end, and of every sequence
of commissions.
-/

set_option autoImplicit false

namespace Errand

variable {σ : Type}

namespace Scene

/-- The value of a counter. -/
def counter (scene : Scene σ) (name : String) (labels : List (String × String)) : Nat :=
  scene.samples.count (.count name labels)

/-- The value of a counter, all labels taken together. -/
def counterInAll (scene : Scene σ) (name : String) : Nat :=
  scene.samples.countP fun sample ↦ sample.kind = .counter ∧ sample.name = name

theorem countP_ledger {p : Metrics.Sample → Bool} (hp : ∀ sample, p sample → sample.countsRuns)
    (scene : Scene σ) : scene.ledger.countP p = scene.samples.countP p := by
  rw [ledger, List.countP_filter]
  congr 1
  funext sample
  cases hsample : p sample with
  | false => rfl
  | true => simp [hp sample hsample]

end Scene

/-! ### Counting in a ledger -/

theorem Metrics.status_inj {succeeded succeeded' : Bool}
    (h : status succeeded = status succeeded') : succeeded = succeeded' := by
  revert h
  cases succeeded <;> cases succeeded' <;> simp [status]

namespace Dispatch

@[simp] theorem name_sample (dispatch : Dispatch) :
    dispatch.sample.name = "workflow_steps_total" := rfl

theorem sample_eq_iff {dispatch : Dispatch} {operation : String} {succeeded : Bool} :
    dispatch.sample = .count "workflow_steps_total"
        [("operation", operation), ("status", Metrics.status succeeded)] ↔
      dispatch.step.operation = operation ∧ dispatch.outcome.isOk = succeeded := by
  constructor
  · intro h
    simp only [sample, Run.stepSample, Metrics.Sample.count, Metrics.Sample.mk.injEq, true_and,
      List.cons.injEq, Prod.mk.injEq, and_true] at h
    exact ⟨h.1, Metrics.status_inj h.2⟩
  · rintro ⟨rfl, rfl⟩
    rfl

end Dispatch

namespace Drive

@[simp] theorem kind_endSample (succeeded : Bool) : (endSample succeeded).kind = .counter := rfl

@[simp] theorem name_endSample (succeeded : Bool) :
    (endSample succeeded).name = "workflow_runs_total" := rfl

theorem endSample_eq_iff {succeeded succeeded' : Bool} :
    endSample succeeded = endSample succeeded' ↔ succeeded = succeeded' := by
  constructor
  · intro h
    simp only [endSample, Metrics.Sample.count, Metrics.Sample.mk.injEq, true_and,
      List.cons.injEq, Prod.mk.injEq, and_true] at h
    exact Metrics.status_inj h
  · rintro rfl
    rfl

/-- What is counted of some runs are their steps and their ends. -/
theorem countP_flatMap_ledger (p : Metrics.Sample → Bool) (drives : List Drive) :
    (drives.flatMap ledger).countP p =
      (drives.flatMap dispatches).countP (p ·.sample) +
        drives.countP fun drive ↦ drive.ending.any (p <| endSample ·) := by
  induction drives with
  | nil => rfl
  | cons drive rest ih =>
    have hledger : drive.ledger.countP p = drive.dispatches.countP (p ·.sample) +
        if drive.ending.any (p <| endSample ·) then 1 else 0 := by
      rw [ledger, List.countP_append, List.countP_map]
      cases drive.ending with
      | none => rfl
      | some succeeded => simp [List.countP_cons, Function.comp_def]
    rw [List.flatMap_cons, List.countP_append, hledger, ih, List.flatMap_cons,
      List.countP_append, List.countP_cons]
    omega

variable (drives : List Drive)

/-- Among all that is counted of some runs, these are the ends that are counted alike. -/
theorem count_endSample (succeeded : Bool) :
    (drives.flatMap ledger).count (endSample succeeded) =
      drives.countP fun drive ↦ drive.ending = some succeeded := by
  have hsteps : (drives.flatMap dispatches).countP (·.sample == endSample succeeded) = 0 := by
    rw [List.countP_eq_zero]
    intro dispatch _ h
    simpa using congrArg Metrics.Sample.name (beq_iff_eq.mp h)
  rw [List.count_eq_countP, countP_flatMap_ledger, hsteps, Nat.zero_add]
  apply List.countP_congr
  intro drive _
  cases drive.ending with
  | none => simp
  | some other => simp [endSample_eq_iff]

/-- Among all that is counted of some runs, these are all the ends. -/
theorem countP_runs :
    (drives.flatMap ledger).countP
        (fun sample ↦ sample.kind = .counter ∧ sample.name = "workflow_runs_total") =
      drives.countP fun drive ↦ drive.ending.isSome := by
  have hsteps : (drives.flatMap dispatches).countP (fun dispatch ↦
      dispatch.sample.kind = .counter ∧ dispatch.sample.name = "workflow_runs_total") = 0 := by
    rw [List.countP_eq_zero]
    intro dispatch _
    simp
  rw [countP_flatMap_ledger, hsteps, Nat.zero_add]
  apply List.countP_congr
  intro drive _
  cases drive.ending <;> simp

/-- Among all that is counted of some runs, these are the steps that are counted alike. -/
theorem count_steps (operation : String) (succeeded : Bool) :
    (drives.flatMap ledger).count (.count "workflow_steps_total"
        [("operation", operation), ("status", Metrics.status succeeded)]) =
      (drives.flatMap dispatches).countP fun dispatch ↦
        dispatch.step.operation = operation ∧ dispatch.outcome.isOk = succeeded := by
  have hruns : (drives.countP fun drive ↦ drive.ending.any (endSample · ==
      .count "workflow_steps_total"
        [("operation", operation), ("status", Metrics.status succeeded)])) = 0 := by
    rw [List.countP_eq_zero]
    intro drive _
    cases drive.ending with
    | none => simp
    | some other =>
      intro h
      simpa [Metrics.Sample.count] using congrArg Metrics.Sample.name (beq_iff_eq.mp h)
  rw [List.count_eq_countP, countP_flatMap_ledger, hruns, Nat.add_zero]
  apply List.countP_congr
  intro dispatch _
  simp [Dispatch.sample_eq_iff]

end Drive

/-! ### What the counters come to -/

/-- Whether between two scenes the counters of runs and steps grow by what some runs come to that
are driven to their ends: by one for every run, under how it ended, unless it could not be kept; and
by one for every step that is dispatched, under its operation and how it ended. -/
structure Counts (drives : List Drive) (before after : Scene σ) : Prop where
  runs : ∀ succeeded,
    after.counter "workflow_runs_total" [("status", Metrics.status succeeded)] =
      before.counter "workflow_runs_total" [("status", Metrics.status succeeded)] +
        drives.countP fun drive ↦ drive.ending = some succeeded
  runsInAll :
    after.counterInAll "workflow_runs_total" =
      before.counterInAll "workflow_runs_total" + drives.countP fun drive ↦ drive.ending.isSome
  steps : ∀ operation succeeded,
    after.counter "workflow_steps_total"
        [("operation", operation), ("status", Metrics.status succeeded)] =
      before.counter "workflow_steps_total"
          [("operation", operation), ("status", Metrics.status succeeded)] +
        (drives.flatMap Drive.dispatches).countP fun dispatch ↦
          dispatch.step.operation = operation ∧ dispatch.outcome.isOk = succeeded

/-- The counters follow from all that was counted. -/
theorem counts_of_ledger {drives : List Drive} {before after : Scene σ}
    (h : after.ledger = before.ledger ++ drives.flatMap Drive.ledger) :
    Counts drives before after := by
  have hgrows {p : Metrics.Sample → Bool} (hp : ∀ sample, p sample → sample.countsRuns) :
      after.samples.countP p =
        before.samples.countP p + (drives.flatMap Drive.ledger).countP p := by
    rw [← Scene.countP_ledger hp, h, List.countP_append, Scene.countP_ledger hp]
  constructor
  · intro succeeded
    rw [← Drive.count_endSample]
    apply hgrows
    simp only [beq_iff_eq, forall_eq]
    rfl
  · rw [← Drive.countP_runs]
    apply hgrows
    simp +contextual [Metrics.Sample.countsRuns]
  · intro operation succeeded
    rw [← Drive.count_steps]
    apply hgrows
    simp only [beq_iff_eq, forall_eq]
    rfl

/-- A team whose collaborators always answer alike and whose vault keeps the runs of every thread
but one. -/
def Team.keepingAllBut (thread plan : String) (fault : Fault) : Team Unit where
  planner _ := .succeed plan
  oracle _ := .succeed "yes"
  solver _ := .succeed "done"
  registry := {}
  vault := some
    { save := fun other _ ↦ if other = thread then .fail fault else .succeed ()
      load := fun _ ↦ .succeed none
      claim := fun _ ↦ .succeed none
      release := fun _ ↦ .succeed ()
      delete := fun _ ↦ .succeed true }

theorem Team.discreet_keepingAllBut (thread plan : String) (fault : Fault) :
    (keepingAllBut thread plan fault).Discreet where
  planner _ := Consult.discreet_answer _
  oracle _ := Consult.discreet_answer _
  operation := by simp [keepingAllBut]
  solver _ := Consult.discreet_answer _
  vault := by
    rintro vault ⟨⟩
    refine ⟨fun other run ↦ ?_, fun _ ↦ Consult.discreet_answer _, fun _ ↦
      Consult.discreet_answer _, fun _ ↦ Consult.discreet_answer _⟩
    dsimp only
    split <;> exact Consult.discreet_answer _

/-- A new run of the thread whose runs are not kept is lost as soon as it is planned. -/
theorem Run.driven_keepingAllBut {thread text : String} {plan : Plan} (fault : Fault)
    (hparse : Plan.parse text = .ok plan) (task : Task) (scene : Scene Unit) :
    (start task).driven (Team.keepingAllBut thread text fault) thread false scene =
      ⟨[], .error (.checkpoint fault)⟩ := by
  let team := Team.keepingAllBut thread text fault
  let planned : Run := { start task with plan := some plan, stage := .tool }
  have hturn : (start task).turn team () = (none, planned, ()) := turn_start rfl hparse
  have hkeep : team.keep thread planned () = (.error fault, ()) := by
    simp [team, Team.keep, Team.keepingAllBut, planned, isDone, Consult.fail, Consult.answer]
  have hdrives : (start task).Drives team thread false () (.error (.checkpoint fault)) () :=
    .lost (by simp [start]) hturn hkeep
  rw [driven_of_drives hdrives, dispatches_of_lost hturn hkeep,
    dispatched_of_stage (by simp [start])]

/-- Driving a run to its end counts it once, under how it ended, unless it could not be kept. Every
step that was dispatched meanwhile is counted once, under its operation and how it ended. This holds
of any run, claimed or not, in any scene, and of all runs together that a sequence of commissions
drives. -/
theorem drives_counted {team : Team σ} (hteam : team.Discreet) :
    (∀ thread claimed (run : Run) (scene : Scene σ),
      Counts [run.driven team thread claimed scene] scene
        ((Journey.moving run claimed).complete team thread scene).2) ∧
    ∀ (commissions : List Commission) (scene : Scene σ),
      Counts (drives team commissions scene) scene (history team commissions scene).2 := by
  constructor
  · intro thread claimed run scene
    apply counts_of_ledger
    simpa using Run.ledger_complete hteam thread claimed run scene
  · intro commissions scene
    exact counts_of_ledger (ledger_history hteam commissions scene)

/-- The run of one thread is lost as soon as it is planned, and not counted. That of another thread
is planned too, and its step is dispatched; it succeeds. -/
theorem drives_counted_past_lost :
    let text := "a #E1=LLM[\x7bx\x7d]"
    let team := Team.keepingAllBut "t-1" text (.internal "disk full")
    let task : Task := { instruction := "t", actor := "u-1" }
    let last := (history team [.perform "t-1" task, .perform "t-2" task] { outside := () }).2
    last.counter "workflow_runs_total" [("status", "success")] = 1 ∧
      last.counter "workflow_runs_total" [("status", "error")] = 0 ∧
      last.counter "workflow_steps_total" [("operation", "LLM"), ("status", "success")] = 1 := by
  intro text team task last
  let step : Step := ⟨"a", "#E1", "LLM", "\x7bx\x7d"⟩
  let plan : Plan := ⟨[step], text⟩
  let planned : Run := { Run.start task with plan := some plan, stage := .tool }
  let stepped := planned.keepOutput plan step (Step.output (.str "yes"))
  let solved : Run := { stepped with answer := some "done", stage := .done }
  have hparse : Plan.parse text = .ok plan := Plan.parse_of_toOption (by decide +kernel)
  have hplan : (Run.start task).turn team () = (none, planned, ()) := Run.turn_start rfl hparse
  have hstep : planned.turn team () = (none, stepped, ()) := rfl
  have hsolve : stepped.turn team () = (none, solved, ()) := rfl
  have hkeep (run : Run) : team.keep "t-2" run () = (.ok (), ()) := by
    cases hdone : run.isDone <;>
      simp [team, Team.keep, Team.keepingAllBut, hdone, Consult.succeed, Consult.answer, Except.map]
  have hsolving : stepped.stage = .solve := by
    simp [stepped, planned, Run.keepOutput, plan, Plan.size]
  have hsecond (scene : Scene Unit) : (Run.start task).driven team "t-2" false scene =
      ⟨[⟨step, .ok (Step.output (.str "yes"))⟩], .ok solved⟩ := by
    have hdrives : (Run.start task).Drives team "t-2" false () (.ok solved) () :=
      .onward (by simp [Run.start]) hplan (hkeep _) (.onward (by simp [planned]) hstep (hkeep _)
        (.onward (by simp [hsolving]) hsolve (hkeep _) (.finished rfl)))
    rw [Run.driven_of_drives hdrives, Run.dispatches_of_keep hplan (hkeep _),
      Run.dispatches_of_keep hstep (hkeep _), Run.dispatches_of_keep hsolve (hkeep _),
      Run.dispatches_of_done rfl]
    rfl
  have hdrives : drives team [.perform "t-1" task, .perform "t-2" task] { outside := () } =
      [⟨[], .error (.checkpoint (.internal "disk full"))⟩,
        ⟨[⟨step, .ok (Step.output (.str "yes"))⟩], .ok solved⟩] := by
    simp [drives, Commission.drive?, hsecond, team, Run.driven_keepingAllBut _ hparse]
  have hdiscreet : team.Discreet := Team.discreet_keepingAllBut "t-1" text (.internal "disk full")
  obtain ⟨-, hhistory⟩ := drives_counted hdiscreet
  obtain ⟨hruns, -, hsteps⟩ := hhistory [.perform "t-1" task, .perform "t-2" task] { outside := () }
  rw [hdrives] at hruns hsteps
  exact ⟨hruns true, hruns false, hsteps "LLM" true⟩

/-- A run that cannot be kept fails, and no failure is counted. -/
theorem drive_uncounted :
    let text := "a #E1=LLM[\x7bx\x7d]"
    let team := Team.keepingAllBut "t-1" text (.internal "disk full")
    let before : Scene Unit := { outside := () }
    let ended := Run.perform team "t-1" { instruction := "t", actor := "u-1" } before
    team.Discreet ∧ ended.1 = .error (.checkpoint (.internal "disk full")) ∧
      ended.2.counter "workflow_runs_total" [("status", "error")] ≠
        before.counter "workflow_runs_total" [("status", "error")] + 1 := by
  intro text team before ended
  let run := Run.start { instruction := "t", actor := "u-1" }
  have hparse : Plan.parse text = .ok ⟨[⟨"a", "#E1", "LLM", "\x7bx\x7d"⟩], text⟩ :=
    Plan.parse_of_toOption (by decide +kernel)
  have hdiscreet : team.Discreet := Team.discreet_keepingAllBut "t-1" text (.internal "disk full")
  have hdriven : run.driven team "t-1" false before =
      ⟨[], .error (.checkpoint (.internal "disk full"))⟩ :=
    Run.driven_keepingAllBut _ hparse _ before
  have hledger : ended.2.ledger = before.ledger ++ (run.driven team "t-1" false before).ledger :=
    Run.ledger_complete hdiscreet "t-1" false run before
  rw [hdriven] at hledger
  have hcounts : Counts [] before ended.2 := counts_of_ledger hledger
  refine ⟨hdiscreet, congrArg Drive.outcome hdriven, fun hcounted ↦ ?_⟩
  exact Nat.succ_ne_self _ (hcounted.symm.trans (hcounts.runs false))

end Errand
