import Errand.Proofs.Gateway.Undertaking

/-!
# Which task a resumed run has

A thread may be given several tasks, one after another. What is kept for it is overwritten when a
new run makes its first transition, which is when it has been planned, and not before. So a resumed
run has the task of the new run that was planned last for its thread (`latestPlanned`), and
`resume_latest_planned` says so for any requests one after another. A task that could not be planned
leaves what is kept from before: `resume_after_unplanned` is a history in which it is not the latest
task that is resumed.
-/

set_option autoImplicit false

namespace Errand

variable {σ : Type}

/-! ### New runs that were planned -/

/-- Whether a task gets a plan: the planner answers, and what it answers is a plan. -/
def Team.plans (team : Team σ) (task : Task) (outside : σ) : Bool :=
  match (team.planner task outside).1.outcome with
  | .error _ => false
  | .ok text => (Plan.parse text).isOk

/-- The first transition of a new run succeeds if its task gets a plan, and only then. -/
theorem Run.turn_start_iff (team : Team σ) (task : Task) (outside : σ) :
    ((start task).turn team outside).1 = none ↔ team.plans task outside := by
  have hinquiry : (start task).inquiry team = .ok (.plan task) := inquiry_plan team rfl
  rw [turn_of_asked outside hinquiry, Team.ask, Consult.outcome_map, Team.plans]
  cases (team.planner task outside).1.outcome with
  | error fault => simp [Except.map]
  | ok text =>
    have hstage : (start task).stage = .plan := rfl
    simp only [Except.map, settle_plan text hstage]
    cases Plan.parse text <;> simp [Except.isOk, Except.toBool]

namespace Gateway

/-- Whether a run is a new one whose task gets a plan. -/
def Undertaking.isPlanned (app : App σ) (undertaking : Undertaking σ) : Bool :=
  !undertaking.claimed && app.team.plans undertaking.run.task undertaking.scene.outside

/-- The new run that was planned last for a thread. -/
def latestPlanned (app : App σ) (thread : String) (past : List (Undertaking σ)) :
    Option (Undertaking σ) :=
  (past.filter fun undertaking ↦
    undertaking.thread = thread && undertaking.isPlanned app).getLast?

/-- Whether a task asks the same, for the same actor, as that of the new run that was planned last
for a thread. -/
def IsLatest (app : App σ) (past : List (Undertaking σ)) (thread : String) (task : Task) : Prop :=
  ∃ latest ∈ latestPlanned app thread past,
    task.instruction = latest.run.task.instruction ∧ task.actor = latest.run.task.actor

theorem latestPlanned_concat (app : App σ) (thread : String) (past : List (Undertaking σ))
    (undertaking : Undertaking σ) :
    latestPlanned app thread (past ++ [undertaking]) =
      if undertaking.thread = thread ∧ undertaking.isPlanned app then some undertaking
      else latestPlanned app thread past := by
  unfold latestPlanned
  rw [List.filter_append]
  split
  · next h => simp [h.1, h.2]
  · next h => simp [h]

section Serve

variable {app : App σ} {place : σ → Checkpoint.Store} {scene : Scene σ}
  {past : List (Undertaking σ)} {undertaking : Undertaking σ}

theorem isLatest_concat_of_unplanned (hunplanned : undertaking.isPlanned app = false) :
    IsLatest app (past ++ [undertaking]) = IsLatest app past := by
  funext thread task
  rw [IsLatest, latestPlanned_concat, if_neg fun h ↦ by simp [hunplanned] at h, IsLatest]

/-- A run that is driven leaves of its thread what belongs to the new run that was planned last. -/
theorem Undertaking.owned_drive (happ : app.KeepsLossily place) (hbrief : app.team.Brief)
    (hstore : (place undertaking.scene.outside).Owned (IsLatest app past))
    (horigin : undertaking.Origin (IsLatest app past)) :
    (place (undertaking.drive app).2.outside).Owned (IsLatest app (past ++ [undertaking])) := by
  have hdrives := undertaking.drives app
  cases horigin with
  | new thread task scene =>
    have hturn := Run.turn_start_iff app.team task scene.outside
    cases hplans : app.team.plans task scene.outside with
    | true =>
      refine hdrives.owned_of_turn happ.team (hturn.mpr hplans)
        (.inr ⟨Run.fresh_start task, hbrief⟩) ?_ ?_ hstore
      · rintro other kept hother ⟨latest, hlatest, hsame⟩
        refine ⟨latest, ?_, hsame⟩
        rwa [latestPlanned_concat, if_neg fun h ↦ hother h.1.symm]
      · refine ⟨⟨thread, .start task, false, scene⟩, ?_, rfl, rfl⟩
        rw [latestPlanned_concat, if_pos ⟨rfl, hplans⟩]
        rfl
    | false =>
      have hunplanned : isPlanned app ⟨thread, .start task, false, scene⟩ = false := hplans
      rw [isLatest_concat_of_unplanned hunplanned]
      exact hdrives.owned_of_fault happ.team (by simp [hturn, hplans]) hstore
  | kept thread watched scene hkeepable howns =>
    rw [isLatest_concat_of_unplanned rfl]
    exact hdrives.owned happ.team (.inr (.inl (hkeepable.watch watched))) howns hstore

/-- Serving one more request. -/
theorem Order.owned_serve (happ : app.KeepsLossily place) (hbrief : app.team.Brief)
    (hstore : (place scene.outside).Owned (IsLatest app past)) (order : Order) :
    (place (order.serve app scene).2.outside).Owned
      (IsLatest app (past ++ (order.undertake app scene).toOption.toList)) := by
  rw [order.serve_eq]
  cases hundertake : order.undertake app scene with
  | error refused =>
    simpa [Except.toOption] using order.owned_of_refused happ hstore hundertake
  | ok undertaking =>
    obtain ⟨hstore', horigin⟩ := order.owned_of_undertaken happ hstore hundertake
    exact happ.recordsAnswer _ (undertaking.owned_drive happ hbrief hstore' horigin)

/-- Serving requests one after another. -/
theorem owned_serveAll (happ : app.KeepsLossily place) (hbrief : app.team.Brief)
    (orders : List Order) (hstore : (place scene.outside).Owned (IsLatest app past)) :
    (place (serveAll app orders scene).2.outside).Owned
      (IsLatest app (past ++ (serveAll app orders scene).1)) := by
  induction orders generalizing scene past with
  | nil => simpa [serveAll] using hstore
  | cons order rest ih =>
    have hrest := ih (order.owned_serve happ hbrief hstore)
    rwa [List.append_assoc] at hrest

/-- Requests are served one after another, for any threads and with any collaborators, and runs are
kept in a store that held nothing before and may forget. If a run is then resumed, its task asks the
same, for the same actor, as that of the new run that was planned last for the thread, and so it is
until the run ends. -/
theorem resume_latest_planned (happ : app.KeepsLossily place) (hbrief : app.team.Brief)
    (hempty : (place scene.outside).kept = []) (orders : List Order) {request : Request}
    (hgranted :
      (Order.resume request).undertake app (serveAll app orders scene).2 = .ok undertaking) :
    ∃ latest ∈ latestPlanned app undertaking.thread (serveAll app orders scene).1,
      undertaking.run.task.instruction = latest.run.task.instruction ∧
      undertaking.run.task.actor = latest.run.task.actor ∧
      ∀ final, (undertaking.drive app).1 = .ok final →
        final.task.instruction = latest.run.task.instruction ∧
        final.task.actor = latest.run.task.actor := by
  have hbegin : (place scene.outside).Owned (IsLatest app []) := .of_kept_nil hempty
  have hstore := owned_serveAll happ hbrief orders hbegin
  rw [List.nil_append] at hstore
  have hclaimed : undertaking.claimed = true := by
    have hdecision := (Order.resume request).decision app (serveAll app orders scene).2
    rw [hgranted] at hdecision
    cases hdecision
    rfl
  obtain ⟨-, horigin⟩ := Order.owned_of_undertaken happ hstore hgranted
  have htask := (undertaking.drives app).task
  cases horigin with
  | new thread task scene' => cases hclaimed
  | kept thread watched scene' hkeepable howns =>
    obtain ⟨latest, hlatest, hinstruction, hactor⟩ := howns
    refine ⟨latest, hlatest, hinstruction, hactor, fun final hfinal ↦ ?_⟩
    rw [htask final hfinal]
    exact ⟨hinstruction, hactor⟩

end Serve

/-! ### A task that cannot be planned -/

/-- A service whose planner has a plan for one task only. Its language model says yes to every
prompt, and its solver never answers. -/
def App.planning (instruction plan : String) : App Checkpoint.Store where
  team :=
    { Team.unanswering plan with
      planner := fun task ↦
        if task.instruction = instruction then .succeed plan else .fail (.internal "No plan") }
  freshThread store := ("t-0", store)

theorem App.keepsIn_planning (instruction plan : String) :
    (App.planning instruction plan).team.KeepsIn id where
  vault := (Team.keepsIn_unanswering plan).vault
  ask inquiry outside := by
    cases inquiry with
    | plan task =>
      rw [Team.ask, Consult.outside_map]
      simp only [App.planning]
      split <;> rfl
    | prompt text => rfl
    | operation name parameters context => rfl
    | answer request => rfl

theorem App.keepsLossily_planning (instruction plan : String) :
    (App.planning instruction plan).KeepsLossily id where
  team := (App.keepsIn_planning instruction plan).lossily
  freshThread _ := .refl _
  recordTask _ hrecorder := by cases hrecorder
  recordAnswer _ hrecorder := by cases hrecorder

theorem App.brief_planning (instruction : String) {plan : String} (h : plan.length < 2 ^ 64) :
    (App.planning instruction plan).team.Brief := by
  intro task outside text htext
  simp only [App.planning] at htext
  split at htext
  · cases htext
    exact h
  · cases htext

/-- If nothing is recorded, serving a request does what driving its run does. -/
theorem Order.outside_serve {app : App σ} {order : Order} {scene : Scene σ}
    {undertaking : Undertaking σ} {outcome : Except RunFault Run} {after : σ}
    (hrecorder : app.recorder = none) (hundertaken : order.undertake app scene = .ok undertaking)
    (h : undertaking.run.Drives app.team undertaking.thread undertaking.claimed
      undertaking.scene.outside outcome after) :
    (order.serve app scene).2.outside = after := by
  rw [order.serve_eq, hundertaken, ← ((undertaking.drives app).unique h).2]
  simp [Undertaking.finish, recordAnswer, hrecorder]

/-- The first task is planned and its step is carried out, but there is no answer; the second task
is not planned. Then it is the run of the first task that is resumed. -/
theorem undertake_after_unplanned :
    let text := "a #E1=LLM[\x7bx\x7d]"
    let app := App.planning "first" text
    let history := serveAll app
      [.create (runRequest "first" "u-1" "t-1"), .create (runRequest "second" "u-2" "t-1")]
      { outside := {} }
    ∃ between undertaking,
      history.1 = [⟨"t-1", .start ⟨"first", "u-1", false⟩, false, { outside := {} }⟩,
        ⟨"t-1", .start ⟨"second", "u-2", false⟩, false, between⟩] ∧
      (Order.resume (resumeRequest "t-1")).undertake app history.2 = .ok undertaking ∧
      undertaking.thread = "t-1" ∧
      undertaking.run.task = ⟨"first", "u-1", false⟩ := by
  intro text app history
  let step : Step := ⟨"a", "#E1", "LLM", "\x7bx\x7d"⟩
  let plan : Plan := ⟨[step], text⟩
  let first : Run := .start ⟨"first", "u-1", false⟩
  let planned : Run := { first with plan := some plan, stage := .tool }
  let stepped := planned.keepOutput plan step (Step.output (.str "yes"))
  have hparse : Plan.parse text = .ok plan := Plan.parse_of_toOption (by decide +kernel)
  have hbody : readBody RunRequest.decoder (runRequest "first" "u-1" "t-1") =
      .ok ⟨"first", "u-1", some "t-1", false⟩ := by decide +kernel
  have hfirst : (Order.create (runRequest "first" "u-1" "t-1")).undertake app { outside := {} } =
      .ok ⟨"t-1", first, false, { outside := {} }⟩ :=
    Order.undertake_create hbody (by decide +kernel) rfl
  have hsolved : stepped.stage = .solve := by
    simp [stepped, planned, Run.keepOutput, plan, Plan.size]
  have hgoes : stepped.stage ≠ .done := by
    rw [hsolved]
    simp
  have hteam := App.keepsIn_planning "first" text
  have hplan : first.turn app.team {} = (none, planned, {}) := Run.turn_start rfl hparse
  obtain ⟨kept, hkeep, hkept⟩ := hteam.keep "t-1" planned {}
  obtain ⟨store, hkeep', hstore⟩ := hteam.keep "t-1" stepped kept
  have hstep : planned.turn app.team kept = (none, stepped, kept) := rfl
  have hsolve : stepped.turn app.team store =
      (some (.solver (.internal "No answer")), stepped, store) := rfl
  have hdrives : first.Drives app.team "t-1" false {} (.error (.solver (.internal "No answer")))
      store :=
    .onward (by simp [first, Run.start]) hplan hkeep
      (.onward (by simp [planned]) hstep hkeep' (.stopped hgoes hsolve))
  obtain ⟨between, hserved⟩ : ∃ between,
      ((Order.create (runRequest "first" "u-1" "t-1")).serve app { outside := {} }).2 = between :=
    ⟨_, rfl⟩
  have hbetween : between.outside = store := by
    rw [← hserved, Order.outside_serve rfl hfirst hdrives]
  have hbody' : readBody RunRequest.decoder (runRequest "second" "u-2" "t-1") =
      .ok ⟨"second", "u-2", some "t-1", false⟩ := by decide +kernel
  have hsecond : (Order.create (runRequest "second" "u-2" "t-1")).undertake app between =
      .ok ⟨"t-1", .start ⟨"second", "u-2", false⟩, false, between⟩ :=
    Order.undertake_create hbody' (by decide +kernel) rfl
  have hrefused (outside : Checkpoint.Store) :
      Run.Drives app.team "t-1" false (.start ⟨"second", "u-2", false⟩) outside
        (.error (.planning (.internal "No plan"))) outside :=
    .stopped (by simp [Run.start]) rfl
  obtain ⟨last, hserved'⟩ : ∃ last,
      ((Order.create (runRequest "second" "u-2" "t-1")).serve app between).2 = last :=
    ⟨_, rfl⟩
  have hlast : last.outside = store := by
    rw [← hserved', Order.outside_serve rfl hsecond (hrefused between.outside), hbetween]
  have hhistory : history = ([⟨"t-1", first, false, { outside := {} }⟩,
      ⟨"t-1", .start ⟨"second", "u-2", false⟩, false, between⟩], last) := by
    simp only [history]
    rw [serveAll_cons_of_undertaken hfirst, hserved, serveAll_cons_of_undertaken hsecond, hserved']
    rfl
  rw [id, id] at hkept hstore
  have hlookup : store.kept.lookup "t-1" = some stepped.write := by
    rw [hstore, Scripted.lookup_kept (by rw [hkept, Scripted.limits_kept]; decide),
      Run.unfinished_of_ne_done hgoes]
    rfl
  have hfree : "t-1" ∉ store.claims := by simp [hstore, hkept, Scripted.mem_claims_kept]
  obtain ⟨after, hclaim, -⟩ := (App.keepsIn_planning "first" text).claim "t-1" last
  rw [id, hlast, Checkpoint.Store.claim_of_lookup (by decide) hlookup hfree] at hclaim
  have hresume : readBody ResumeRequest.decoder (resumeRequest "t-1") = .ok ⟨"t-1", false⟩ := by
    decide +kernel
  rw [hhistory]
  exact ⟨between, ⟨"t-1", stepped.watch false, true, after⟩, rfl,
    Order.undertake_resume hresume (by decide +kernel) rfl hclaim, rfl, rfl⟩

/-- What is resumed is not the task of the run request that was accepted last, but that of an
earlier one, for another actor. -/
theorem resume_after_unplanned :
    let history := serveAll (App.planning "first" "a #E1=LLM[\x7bx\x7d]")
      [.create (runRequest "first" "u-1" "t-1"), .create (runRequest "second" "u-2" "t-1")]
      { outside := {} }
    ∃ latest undertaking,
      (history.1.filter fun earlier ↦ earlier.thread = "t-1" && !earlier.claimed).getLast? =
        some latest ∧
      (Order.resume (resumeRequest "t-1")).undertake
        (App.planning "first" "a #E1=LLM[\x7bx\x7d]") history.2 = .ok undertaking ∧
      undertaking.thread = "t-1" ∧
      latest.run.task = ⟨"second", "u-2", false⟩ ∧
      undertaking.run.task = ⟨"first", "u-1", false⟩ := by
  intro history
  obtain ⟨between, undertaking, hpast, hgranted, hthread, htask⟩ := undertake_after_unplanned
  refine ⟨⟨"t-1", .start ⟨"second", "u-2", false⟩, false, between⟩, undertaking, ?_, hgranted,
    hthread, rfl, htask⟩
  rw [hpast]
  rfl

/-- The run that is resumed belongs to the task that was planned last. -/
theorem resume_latest_planned_first :
    let app := App.planning "first" "a #E1=LLM[\x7bx\x7d]"
    let history := serveAll app
      [.create (runRequest "first" "u-1" "t-1"), .create (runRequest "second" "u-2" "t-1")]
      { outside := {} }
    ∃ latest ∈ latestPlanned app "t-1" history.1, latest.run.task.instruction = "first" ∧
      latest.run.task.actor = "u-1" := by
  intro app history
  obtain ⟨between, undertaking, -, hgranted, hthread, htask⟩ := undertake_after_unplanned
  obtain ⟨latest, hlatest, hinstruction, hactor, -⟩ :=
    resume_latest_planned (App.keepsLossily_planning _ _)
      (App.brief_planning "first" (by decide)) rfl _ hgranted
  rw [hthread] at hlatest
  rw [htask] at hinstruction hactor
  exact ⟨latest, hlatest, hinstruction.symm, hactor.symm⟩

end Gateway

end Errand
