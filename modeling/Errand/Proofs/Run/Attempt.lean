import Errand.Proofs.Run.Scripts

/-!
# One attempt at a run

A run on scripts is driven until it is done or a call fails. Beside it, the same run is driven on
the cleared scripts, where nothing has to fail. `Attempt` compares the two. Either both are done
with the same run after the same calls; or the first has stopped at a run that the second passes
through after the same calls (`Passes`). The run at which the first stopped is kept and not claimed,
and the scripts are cleared to the same again, so the two can be compared from there on.
`Drives.attempt` says that every attempt is like this.
-/

set_option autoImplicit false

namespace Errand

variable {σ : Type}

/-! ### Who watches -/

namespace Run

theorem watch_watch (run : Run) (watched watched' : Bool) :
    (run.watch watched).watch watched' = run.watch watched' := rfl

theorem watch_self (run : Run) : run.watch run.task.watched = run := rfl

theorem stage_ne_plan_of_turn {team : Team σ} {run next : Run} {outside after : σ}
    (h : run.turn team outside = (none, next, after)) : next.stage ≠ .plan := by
  obtain ⟨value, hsettles⟩ := settles_of_turn h
  cases hsettles with
  | planned plan _ _ => simp
  | stepped plan step _ _ _ =>
    simp only [keepOutput]
    split <;> simp
  | solved _ => simp

theorem task_of_turn {team : Team σ} {run next : Run} {outside after : σ}
    (h : run.turn team outside = (none, next, after)) : next.task = run.task := by
  obtain ⟨value, hsettles⟩ := settles_of_turn h
  cases hsettles <;> rfl

theorem inquiry_watch {team : Team σ} {run : Run} (hstage : run.stage ≠ .plan) (watched : Bool) :
    (run.watch watched).inquiry team = run.inquiry team := by
  obtain ⟨task, stage, plan, results, cursor, answer⟩ := run
  cases stage with
  | plan => exact absurd rfl hstage
  | tool => rfl
  | solve => rfl
  | done => rfl

theorem settle_watch (run : Run) (watched : Bool) (value : Json) :
    (run.watch watched).settle value = (run.settle value).map (·.watch watched) := by
  obtain ⟨task, stage, plan, results, cursor, answer⟩ := run
  cases stage with
  | plan =>
    simp only [settle, watch]
    cases Plan.parse (value.str?.getD "") <;> rfl
  | tool =>
    cases plan with
    | none => rfl
    | some plan =>
      let run : Run := ⟨task, .tool, some plan, results, cursor, answer⟩
      have hcurrent : (run.watch watched).currentStep = run.currentStep := rfl
      change (run.watch watched).settle value = (run.settle value).map (·.watch watched)
      cases hstep : run.currentStep with
      | error fault =>
        rw [hstep] at hcurrent
        simp only [settle, watch, run] at hcurrent hstep ⊢
        simp only [hcurrent, hstep]
        rfl
      | ok step =>
        rw [settle_tool value rfl rfl hstep, settle_tool value rfl rfl (hcurrent.trans hstep)]
        rfl
  | solve => rfl
  | done => rfl

/-- Once there is a plan, it does not matter for a transition who watches. -/
theorem turn_watch {team : Team σ} {run : Run} (hstage : run.stage ≠ .plan) (watched : Bool)
    (outside : σ) :
    (run.watch watched).turn team outside =
      ((run.turn team outside).1, (run.turn team outside).2.1.watch watched,
        (run.turn team outside).2.2) := by
  cases hinquiry : run.inquiry team with
  | error fault =>
    rw [turn_of_silent outside hinquiry,
      turn_of_silent outside ((inquiry_watch hstage watched).trans hinquiry)]
  | ok inquiry =>
    rw [turn_of_asked outside hinquiry,
      turn_of_asked outside ((inquiry_watch hstage watched).trans hinquiry)]
    cases (team.ask inquiry outside).1.outcome with
    | error fault => rfl
    | ok value =>
      simp only [settle_watch]
      cases run.settle value <;> rfl

/-- Once there is a plan, it does not matter for the course of a run who watches, if it does not
matter for the vault. -/
theorem Drives.watch {team : Team σ} {thread : String} {claimed watched : Bool}
    (hkeep : ∀ run outside,
      team.keep thread (run.watch watched) outside = team.keep thread run outside)
    {run : Run} {outside after : σ} {outcome : Except RunFault Run} (hstage : run.stage ≠ .plan)
    (h : run.Drives team thread claimed outside outcome after) :
    (run.watch watched).Drives team thread claimed outside (outcome.map (·.watch watched))
      after := by
  induction h with
  | finished hdone => exact .finished hdone
  | stopped hdone hturn => exact .stopped hdone (by rw [turn_watch hstage, hturn])
  | lost hdone hturn hlost =>
    exact .lost hdone (by rw [turn_watch hstage, hturn]) ((hkeep _ _).trans hlost)
  | onward hdone hturn hkept _ ih =>
    exact .onward hdone (by rw [turn_watch hstage, hturn]) ((hkeep _ _).trans hkept)
      (ih (stage_ne_plan_of_turn hturn))

theorem Drives.task {team : Team σ} {thread : String} {claimed : Bool} {run : Run}
    {outside after : σ} {outcome : Except RunFault Run}
    (h : run.Drives team thread claimed outside outcome after) :
    ∀ final, outcome = .ok final → final.task = run.task := by
  induction h with
  | finished _ =>
    rintro final ⟨⟩
    rfl
  | stopped _ _ =>
    rintro final ⟨⟩
  | lost _ _ _ =>
    rintro final ⟨⟩
  | onward _ hturn _ _ ih =>
    intro final hfinal
    exact (ih final hfinal).trans (task_of_turn hturn)

/-! ### Runs that are kept -/

/-- Whether a run has a plan whose steps can be counted in 64 bits, and is not past its end. -/
def Fits (run : Run) : Prop :=
  ∃ plan, run.plan = some plan ∧ plan.size < 2 ^ 64 ∧ run.cursor ≤ plan.size

theorem Fits.turn {team : Team σ} {run next : Run} {outside after : σ} (hfits : run.Fits)
    (hstage : run.stage ≠ .plan) (h : run.turn team outside = (none, next, after)) : next.Fits := by
  obtain ⟨plan, hplan, hsize, hcursor⟩ := hfits
  obtain ⟨value, hsettles⟩ := settles_of_turn h
  cases hsettles with
  | planned _ hplanned _ => exact absurd hplanned hstage
  | stepped plan' step _ hplan' hstep =>
    obtain rfl : plan = plan' := by simpa [hplan] using hplan'
    obtain ⟨plan'', hplan'', hget⟩ := currentStep_eq_ok hstep
    obtain rfl : plan = plan'' := by simpa [hplan] using hplan''
    obtain ⟨hlt, -⟩ := List.getElem?_eq_some_iff.mp hget
    exact ⟨plan, hplan, hsize, hlt⟩
  | solved _ => exact ⟨plan, hplan, hsize, hcursor⟩

/-- What is left of a run to be driven on: nothing once it is done. -/
def unfinished (run : Run) : Option Run :=
  if run.isDone then none else some run

theorem unfinished_of_done {run : Run} (h : run.stage = .done) : run.unfinished = none :=
  if_pos (decide_eq_true h)

theorem unfinished_of_ne_done {run : Run} (h : run.stage ≠ .done) : run.unfinished = some run :=
  if_neg (by simpa [isDone] using h)

theorem mem_unfinished {run left : Run} :
    left ∈ run.unfinished ↔ run.stage ≠ .done ∧ run = left := by
  by_cases hdone : run.stage = .done
  · simp [unfinished_of_done hdone, hdone]
  · simp [unfinished_of_ne_done hdone, hdone]

/-- Whether a run can go on later: it has a plan, and it is kept unless it is done. -/
structure Pending (run : Run) (thread : String) (outside : Scripted) : Prop where
  stage : run.stage ≠ .plan
  fits : run.Fits
  roomy : outside.store.limits.roomy
  kept : run.stage ≠ .done → outside.store.kept.lookup thread = some run.write

end Run

namespace Scripted

variable {catalog : List Operation.Info} {input : SolverInput} {thread : String}

theorem keep_watch (stored watched : Bool) (run : Run) (outside : Scripted) :
    (team catalog input stored).keep thread (run.watch watched) outside =
      (team catalog input stored).keep thread run outside := by
  cases stored <;> rfl

/-- The store after a run has been kept. -/
def kept (thread : String) (run : Run) (store : Checkpoint.Store) : Checkpoint.Store :=
  if run.isDone then (store.delete thread).2 else store.save thread run

section Kept

variable {other : String} {run : Run} {store : Checkpoint.Store}

theorem kept_of_done (h : run.stage = .done) :
    kept thread run store = (store.delete thread).2 :=
  if_pos (decide_eq_true h)

theorem kept_of_ne_done (h : run.stage ≠ .done) : kept thread run store = store.save thread run :=
  if_neg (by simpa [Run.isDone] using h)

/-- What is kept of a run is what is left of it. -/
theorem lookup_kept (hroomy : store.limits.roomy) (thread : String) (run : Run) :
    (kept thread run store).kept.lookup thread = run.unfinished.map Run.write := by
  by_cases hdone : run.stage = .done
  · rw [kept_of_done hdone, Run.unfinished_of_done hdone]
    exact store.lookup_delete thread
  · rw [kept_of_ne_done hdone, Run.unfinished_of_ne_done hdone]
    exact Checkpoint.Store.lookup_save hroomy thread run

/-- Keeping a run leaves the runs of other threads as they are. -/
theorem lookup_kept_of_ne (h : other ≠ thread) (run : Run) (store : Checkpoint.Store) :
    (kept thread run store).kept.lookup other = store.kept.lookup other := by
  unfold kept
  split
  · exact Checkpoint.Store.lookup_delete_of_ne h
  · exact Checkpoint.Store.lookup_save_of_ne h run

/-- Once a run has been kept, the same threads are claimed as before, but for its own thread if it
is done. -/
theorem mem_claims_kept :
    other ∈ (kept thread run store).claims ↔
      other ∈ store.claims ∧ (other = thread → run.stage ≠ .done) := by
  by_cases hdone : run.stage = .done
  · rw [kept_of_done hdone]
    simp [Checkpoint.Store.delete, Checkpoint.Store.release, hdone]
  · rw [kept_of_ne_done hdone, Checkpoint.Store.claims_save]
    simp [hdone]

end Kept

theorem keep_stored (run : Run) (outside : Scripted) :
    (team catalog input true).keep thread run outside =
      (.ok (), { outside with store := kept thread run outside.store }) := by
  unfold Team.keep kept
  by_cases hdone : run.isDone
  · simp only [hdone, if_true]
    rfl
  · simp only [hdone]
    rfl

/-- Keeping a run never fails and takes nothing from the scripts. -/
theorem keep_team (catalog : List Operation.Info) (input : SolverInput) (stored : Bool)
    (thread : String) (run : Run) (outside : Scripted) :
    ∃ after, (team catalog input stored).keep thread run outside = (.ok (), after) ∧
      after.scripts = outside.scripts := by
  cases stored with
  | false => exact ⟨outside, rfl, rfl⟩
  | true => exact ⟨_, keep_stored run outside, rfl⟩

/-- Giving back a claim leaves everything but the claims as it is. -/
theorem exists_giveBack (catalog : List Operation.Info) (input : SolverInput) (thread : String)
    {claimed : Bool} {outside : Scripted}
    (hfree : claimed = false → thread ∉ outside.store.claims) :
    ∃ store : Checkpoint.Store,
      (team catalog input true).giveBack thread claimed outside = { outside with store } ∧
      store.limits = outside.store.limits ∧ store.kept = outside.store.kept ∧
      thread ∉ store.claims := by
  cases claimed with
  | false => exact ⟨outside.store, rfl, rfl, rfl, hfree rfl⟩
  | true =>
    exact ⟨outside.store.release thread, rfl, rfl, rfl,
      outside.store.notMem_claims_release thread⟩

theorem limits_kept (run : Run) (store : Checkpoint.Store) :
    (kept thread run store).limits = store.limits := by
  unfold kept
  split
  · rfl
  · exact store.limits_save thread run

theorem notMem_claims_kept {store : Checkpoint.Store} (run : Run) (hfree : thread ∉ store.claims) :
    thread ∉ (kept thread run store).claims :=
  fun hclaimed ↦ hfree (mem_claims_kept.mp hclaimed).1

/-- A run that has been kept can go on later. -/
theorem pending_kept {run : Run} {outside : Scripted} (hstage : run.stage ≠ .plan)
    (hfits : run.Fits) (hroomy : outside.store.limits.roomy) :
    run.Pending thread { outside with store := kept thread run outside.store } where
  stage := hstage
  fits := hfits
  roomy := by
    rw [limits_kept]
    exact hroomy
  kept := by
    intro hdone
    exact (lookup_kept hroomy thread run).trans
      (congrArg (Option.map Run.write) (Run.unfinished_of_ne_done hdone))

end Scripted

/-! ### Attempts -/

namespace Run

/-- Whether a run that is driven comes to another one after these calls, however it ends. -/
def Passes (team : Team σ) (thread : String) (run : Run) (outside : σ)
    (calls : List Consultation) (next : Run) (after : σ) : Prop :=
  ∀ notes outcome last, run.Drives team.noted thread false (outside, notes) outcome last ↔
    next.Drives team.noted thread false (after, notes ++ calls) outcome last

section Passes

variable {team : Team σ} {thread : String} {run next : Run} {outside between kept after : σ}

theorem Passes.refl (team : Team σ) (thread : String) (run : Run) (outside : σ) :
    run.Passes team thread outside [] run outside := by
  intro notes outcome last
  rw [List.append_nil]

theorem Passes.trans {stop : Run} {calls others : List Consultation}
    (h : run.Passes team thread outside calls next between)
    (hrest : next.Passes team thread between others stop after) :
    run.Passes team thread outside (calls ++ others) stop after := by
  intro notes outcome last
  rw [h, hrest, List.append_assoc]

/-- A run that is kept after its transition comes to the next run. -/
theorem Passes.of_turn (hdone : run.stage ≠ .done)
    (hturn : run.turn team outside = (none, next, between))
    (hkeep : team.keep thread next between = (.ok (), kept)) :
    run.Passes team thread outside (run.consultations team outside) next kept := by
  intro notes outcome last
  have hturn' := turn_noted_of_turn hturn notes
  have hkeep' := Team.keep_noted_of_keep hkeep (notes ++ run.consultations team outside)
  exact ⟨fun h ↦ h.rest hdone hturn' hkeep', .onward hdone hturn' hkeep'⟩

end Passes

section Attempt

variable (catalog : List Operation.Info) (input : SolverInput) (stored : Bool) (thread : String)

/-- How driving a run on scripts compares with driving it on the cleared scripts. -/
inductive Attempt (run : Run) (outside : Scripted × List Consultation) (clear : Scripted) :
    Except RunFault Run → Scripted × List Consultation → Prop
  /-- Both end with the same run, after the same calls. -/
  | completed {final : Run} {after : Scripted × List Consultation} (calls : List Consultation)
      (cleared : Scripted) (hcalls : ∀ call ∈ calls, ∃ value, call.outcome = .ok value)
      (hnotes : after.2 = outside.2 ++ calls)
      (hdrives : ∀ notes, run.Drives (Scripted.team catalog input stored).noted thread false
        (clear, notes) (.ok final) (cleared, notes ++ calls)) :
      Attempt run outside clear (.ok final) after
  /-- The first stops at a run, which is kept, and the second passes through the same run after the
  same calls. -/
  | interrupted {fault : RunFault} {after : Scripted × List Consultation} (next : Run)
      (calls failed : List Consultation) (cleared : Scripted)
      (hcalls : ∀ call ∈ calls, ∃ value, call.outcome = .ok value)
      (hnotes : after.2 = outside.2 ++ calls ++ failed)
      (hpasses : run.Passes (Scripted.team catalog input stored) thread clear calls next cleared)
      (htask : next.task = run.task) (hpending : next.Pending thread after.1)
      (hdone : next.stage ≠ .done) (hfree : thread ∉ after.1.store.claims)
      (hcleared : cleared.scripts = after.1.scripts.cleared)
      (hstops : next.Stops (Scripted.team catalog input stored) cleared failed
        (outside.1.scripts.failures catalog) (after.1.scripts.failures catalog)) :
      Attempt run outside clear (.error fault) after

end Attempt

variable {catalog : List Operation.Info} {input : SolverInput} {stored : Bool} {thread : String}

theorem Stops.of_le {team : Team σ} {run : Run} {clear : σ} {failed : List Consultation}
    {before before' after : Nat} (h : run.Stops team clear failed before after)
    (hle : before ≤ before') : run.Stops team clear failed before' after := by
  cases h with
  | refused hinquiry hless => exact .refused hinquiry (Nat.lt_of_lt_of_le hless hle)
  | alike hfault => exact .alike hfault

/-- A transition before an attempt belongs to it. -/
theorem Attempt.onward {run next : Run} {outside moved clear : Scripted} {notes : List Consultation}
    {after : Scripted × List Consultation} {outcome : Except RunFault Run}
    (hdone : run.stage ≠ .done) (hclear : clear.scripts = outside.scripts.cleared)
    (hturn : run.turn (Scripted.team catalog input true) outside = (none, next, moved))
    (h : ∀ cleared : Scripted, cleared.scripts = moved.scripts.cleared →
      Attempt catalog input stored thread next
        ({ moved with store := Scripted.kept thread next moved.store },
          notes ++ run.consultations (Scripted.team catalog input true) outside)
        cleared outcome after) :
    Attempt catalog input stored thread run (outside, notes) clear outcome after := by
  obtain ⟨inquiry, value, passed, hcall, hcall', hturn', hscripts, hcount⟩ :=
    Scripted.turn_cleared_of_success stored hclear hturn
  obtain ⟨cleared, hkeep, hcleared⟩ := Scripted.keep_team catalog input stored thread next passed
  have hpassed := Passes.of_turn hdone hturn' hkeep
  rw [hcall'] at hpassed
  have hattempt := h cleared (hcleared.trans hscripts)
  rw [hcall] at hattempt
  cases hattempt with
  | completed calls last hcalls hafter hdrives =>
    refine .completed (⟨inquiry, .ok value⟩ :: calls) last ?_ ?_ fun notes ↦ ?_
    · simpa using hcalls
    · rw [hafter, List.append_assoc, List.singleton_append]
    · have hrest := hdrives (notes ++ [⟨inquiry, .ok value⟩])
      rw [List.append_assoc, List.singleton_append] at hrest
      rw [hpassed]
      exact hrest
  | interrupted stop calls failed last hcalls hafter hpasses htask hpending hgoes hfree hcleared
      hstops =>
    refine .interrupted stop (⟨inquiry, .ok value⟩ :: calls) failed last ?_ ?_
      (hpassed.trans hpasses) (htask.trans (task_of_turn hturn)) hpending hgoes hfree hcleared
      (hstops.of_le hcount)
    · simpa using hcalls
    · rw [hafter]
      simp

/-- Driving a run on scripts is an attempt. -/
theorem Drives.attempt {run : Run} {claimed : Bool} {outside after : Scripted × List Consultation}
    {outcome : Except RunFault Run} {clear : Scripted}
    (h : run.Drives (Scripted.team catalog input true).noted thread claimed outside outcome after)
    (hpending : run.Pending thread outside.1) (hclear : clear.scripts = outside.1.scripts.cleared)
    (hfree : claimed = false → thread ∉ outside.1.store.claims) :
    Attempt catalog input stored thread run outside clear outcome after := by
  induction h generalizing clear with
  | finished hdone =>
    refine .completed [] clear (by simp) (by simp) fun notes ↦ ?_
    rw [List.append_nil]
    exact .finished hdone
  | @stopped run _ outside _ _ hdone hturn =>
    obtain ⟨outside, notes⟩ := outside
    have hstore := Scripted.store_turn catalog input true run outside
    rcases hraw : run.turn (Scripted.team catalog input true) outside with ⟨_, _, stop⟩
    rw [turn_noted, hraw] at hturn
    rw [hraw] at hstore
    cases hturn
    obtain ⟨hscripts, hstops⟩ :=
      Scripted.turn_cleared_of_fault stored hpending.stage hclear hraw
    rw [← hstore] at hfree
    obtain ⟨store, hback, hlimits, hkept, hclaims⟩ :=
      Scripted.exists_giveBack catalog input thread hfree
    rw [Team.giveBack_noted, hback]
    refine .interrupted run [] _ clear (by simp) (by rw [List.append_nil])
      (.refl _ thread run clear) rfl ?_ hdone hclaims hscripts hstops
    refine ⟨hpending.stage, hpending.fits, ?_, fun hgoes ↦ ?_⟩
    · rw [hlimits, hstore]
      exact hpending.roomy
    · rw [hkept, hstore]
      exact hpending.kept hgoes
  | @lost _ _ _ between _ _ _ _ hkeep =>
    obtain ⟨between, notes⟩ := between
    rw [Team.keep_noted, Scripted.keep_stored] at hkeep
    cases hkeep
  | @onward run _ outside _ _ _ _ hdone hturn hkeep _ ih =>
    obtain ⟨outside, notes⟩ := outside
    have hstore := Scripted.store_turn catalog input true run outside
    rcases hraw : run.turn (Scripted.team catalog input true) outside with ⟨_, next, moved⟩
    rw [turn_noted, hraw] at hturn
    rw [hraw] at hstore
    cases hturn
    rw [Team.keep_noted, Scripted.keep_stored] at hkeep
    cases hkeep
    refine .onward hdone hclear hraw fun cleared hcleared ↦ ih ?_ hcleared fun hclaimed ↦ ?_
    · exact Scripted.pending_kept (stage_ne_plan_of_turn hraw)
        (hpending.fits.turn hpending.stage hraw) (by rw [hstore]; exact hpending.roomy)
    · exact Scripted.notMem_claims_kept next (by rw [hstore]; exact hfree hclaimed)

end Run

end Errand
