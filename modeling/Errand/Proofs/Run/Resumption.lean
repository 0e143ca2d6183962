import Errand.Proofs.Run.Attempt

/-!
# Resuming is as good as never having failed

`Run.persevere` performs a task and, as long as that fails, resumes it. On scripts, with a store in
memory that has room, this comes to the same as performing the task once on the cleared scripts,
with a store or without one. `persevere_scripted` says so: if perseverance gets anywhere, the
undisturbed run ends with the same plan, results, cursor and answer, and with the same successful
calls in the same order; and it gets there after as many resumptions as there are failing outcomes,
if the undisturbed run does. No step that has succeeded is carried out again, because every call
that failed was made again next (`Retried`).
-/

set_option autoImplicit false

namespace Errand

variable {σ : Type}

namespace Run

/-- Resumes a run that failed; the fault stays if there is nothing to resume. -/
def again (team : Team σ) (thread : String) (watched : Bool) (fault : RunFault) (scene : Scene σ) :
    Except RunFault Run × Scene σ :=
  match resume team thread watched scene with
  | (.ok (some run), after) => (.ok run, after)
  | (.ok none, after) => (.error fault, after)
  | (.error fault, after) => (.error fault, after)

/-- Resumes a run as long as it fails, at most as often as it is said who watches. -/
def insist (team : Team σ) (thread : String) :
    List Bool → Except RunFault Run × Scene σ → Except RunFault Run × Scene σ
  | watched :: rest, (.error fault, scene) =>
    insist team thread rest (again team thread watched fault scene)
  | _, attempt => attempt

/-- Performs a task and resumes it as long as it fails, at most as often as it is said who
watches. -/
def persevere (team : Team σ) (thread : String) (task : Task) (watches : List Bool)
    (scene : Scene σ) : Except RunFault Run × Scene σ :=
  insist team thread watches (perform team thread task scene)

end Run

/-- The calls of a run that was interrupted, beside the calls of one that was not: every call that
failed is made again next, until it succeeds. -/
inductive Retried : List Consultation → List Consultation → Prop
  /-- No calls. -/
  | nil : Retried [] []
  /-- A call that succeeds in both. -/
  | success {inquiry : Inquiry} {value : Json} {log plain : List Consultation}
      (h : Retried log plain) :
      Retried (⟨inquiry, .ok value⟩ :: log) (⟨inquiry, .ok value⟩ :: plain)
  /-- A call that fails before it succeeds. -/
  | failure {inquiry : Inquiry} {fault : Fault} {value : Json} {log plain : List Consultation}
      (h : Retried log (⟨inquiry, .ok value⟩ :: plain)) :
      Retried (⟨inquiry, .error fault⟩ :: log) (⟨inquiry, .ok value⟩ :: plain)

namespace Retried

/-- The calls that succeed are those of the run that was not interrupted. -/
theorem filter_eq {log plain : List Consultation} (h : Retried log plain) :
    log.filter (·.outcome.isOk) = plain := by
  induction h with
  | nil => rfl
  | success _ ih => rw [List.filter_cons_of_pos rfl, ih]
  | failure _ ih => rw [List.filter_cons_of_neg (by simp [Except.isOk, Except.toBool]), ih]

theorem append {calls log plain : List Consultation}
    (hcalls : ∀ call ∈ calls, ∃ value, call.outcome = .ok value) (h : Retried log plain) :
    Retried (calls ++ log) (calls ++ plain) := by
  induction calls with
  | nil => exact h
  | cons call calls ih =>
    obtain ⟨inquiry, outcome⟩ := call
    obtain ⟨value, rfl⟩ : ∃ value, outcome = .ok value := hcalls ⟨inquiry, outcome⟩ (by simp)
    exact .success (ih fun call hcall ↦ hcalls call (List.mem_cons_of_mem _ hcall))

end Retried

namespace Run

/-! ### Notes -/

/-- Notes are only added to. -/
theorem Drives.notes {team : Team σ} {thread : String} {claimed : Bool} {run : Run}
    {outside after : σ × List Consultation} {outcome : Except RunFault Run}
    (h : run.Drives team.noted thread claimed outside outcome after) :
    outside.2 <+: after.2 := by
  induction h with
  | finished _ => exact List.prefix_rfl
  | @stopped run _ outside _ _ _ hturn =>
    rw [turn_noted] at hturn
    obtain ⟨-, -, rfl⟩ := by simpa using hturn
    rw [Team.giveBack_noted]
    exact List.prefix_append _ _
  | @lost run _ outside _ _ _ _ hturn hkeep =>
    rw [turn_noted] at hturn
    obtain ⟨-, -, rfl⟩ := by simpa using hturn
    rw [Team.keep_noted] at hkeep
    obtain ⟨-, rfl⟩ := by simpa using hkeep
    rw [Team.giveBack_noted]
    exact List.prefix_append _ _
  | @onward run _ outside _ _ _ _ _ hturn hkeep _ ih =>
    rw [turn_noted] at hturn
    obtain ⟨-, -, rfl⟩ := by simpa using hturn
    rw [Team.keep_noted] at hkeep
    obtain ⟨-, rfl⟩ := by simpa using hkeep
    exact (List.prefix_append _ _).trans ih

/-- A run that ends well begins with a transition that succeeds. -/
theorem Drives.turn_eq_none {team : Team σ} {thread : String} {claimed : Bool} {run final : Run}
    {outside after : σ} (hdone : run.stage ≠ .done)
    (h : run.Drives team thread claimed outside (.ok final) after) :
    (run.turn team outside).1 = none := by
  cases h with
  | finished hnot => exact absurd hnot hdone
  | onward _ hturn _ _ => rw [hturn]

/-- The first note of a run that ends well is the call that its first transition made. -/
theorem Drives.first_note {team : Team σ} {thread : String} {claimed : Bool} {run final : Run}
    {outside after : σ} {notes calls : List Consultation} {inquiry : Inquiry}
    (hdone : run.stage ≠ .done) (hinquiry : run.inquiry team = .ok inquiry)
    (h : run.Drives team.noted thread claimed (outside, notes) (.ok final)
      (after, notes ++ calls)) :
    ∃ value rest, calls = ⟨inquiry, .ok value⟩ :: rest := by
  have hnone := h.turn_eq_none hdone
  have hprefix : notes ++ run.consultations team outside <+: notes ++ calls := by
    generalize hlast : (after, notes ++ calls) = last at h
    cases h with
    | finished hnot => exact absurd hnot hdone
    | onward _ hturn hkeep hrest =>
      rw [turn_noted] at hturn
      obtain ⟨-, -, rfl⟩ := by simpa using hturn
      rw [Team.keep_noted] at hkeep
      obtain ⟨-, rfl⟩ := by simpa using hkeep
      rw [show notes ++ calls = last.2 by rw [← hlast]]
      exact hrest.notes
  rw [turn_noted] at hnone
  rcases hturn : run.turn team outside with ⟨_, next, between⟩
  obtain rfl : _ = none := by simpa [hturn] using hnone
  obtain ⟨asked, value, hasked, hvalue, -, -⟩ := turn_of_success hturn
  obtain rfl : inquiry = asked := by simpa [hinquiry] using hasked
  have hcall : run.consultations team outside = [⟨inquiry, .ok value⟩] := by
    simp [consultations, hinquiry, hvalue]
  obtain ⟨rest, hrest⟩ := hprefix
  rw [hcall, List.append_assoc, List.append_cancel_left_eq] at hrest
  exact ⟨value, rest, hrest.symm⟩

/-! ### Resumptions on scripts -/

variable {catalog : List Operation.Info} {input : SolverInput} {stored : Bool} {thread : String}

theorem claim_team (catalog : List Operation.Info) (input : SolverInput) (thread : String)
    (scene : Scene (Scripted × List Consultation)) :
    ∃ after : Scene (Scripted × List Consultation),
      claim (Scripted.team catalog input true).noted thread scene =
        ((scene.outside.1.store.claim thread).1.mapError .checkpoint, after) ∧
      after.outside = ({ scene.outside.1 with store := (scene.outside.1.store.claim thread).2 },
        scene.outside.2) :=
  ⟨_, rfl, rfl⟩

/-- Resuming a run that is kept and not claimed drives it, with whoever watches now. -/
theorem again_of_pending (catalog : List Operation.Info) (input : SolverInput) {run : Run}
    {scene : Scene (Scripted × List Consultation)}
    (hpending : run.Pending thread scene.outside.1) (hdone : run.stage ≠ .done)
    (hfree : thread ∉ scene.outside.1.store.claims) (watched : Bool) (fault : RunFault) :
    ∃ (store : Checkpoint.Store) (outcome : Except RunFault Run)
      (after : Scene (Scripted × List Consultation)),
      store.limits = scene.outside.1.store.limits ∧ store.kept = scene.outside.1.store.kept ∧
      again (Scripted.team catalog input true).noted thread watched fault scene = (outcome, after) ∧
      (run.watch watched).Drives (Scripted.team catalog input true).noted thread true
        ({ scene.outside.1 with store }, scene.outside.2) outcome after.outside := by
  obtain ⟨plan, hplan, hsize, hcursor⟩ := hpending.fits
  have hstored := Checkpoint.Store.claim_of_lookup (Nat.lt_of_le_of_lt hcursor hsize)
    (hpending.kept hdone) hfree
  obtain ⟨between, hclaim, hbetween⟩ := claim_team catalog input thread scene
  rw [hstored] at hclaim hbetween
  let journey := (Journey.moving (run.watch watched) true).complete
    (Scripted.team catalog input true).noted thread between
  refine ⟨{ scene.outside.1.store with claims := thread :: scene.outside.1.store.claims },
    journey.1, journey.2, rfl, rfl, ?_, ?_⟩
  · have hresume : (run.watch false).resumeClaimed (Scripted.team catalog input true).noted thread
        watched between = journey := rfl
    rw [again, resume, hclaim]
    simp only [Except.mapError, hresume]
    cases journey.1 <;> simp [Except.map]
  · have hdrives := @Journey.drives_complete _ (Scripted.team catalog input true).noted thread true
      (run.watch watched) between
    rw [hbetween] at hdrives
    exact hdrives

/-- Resuming a run that is kept and not claimed is another attempt at it. -/
theorem attempt_again (catalog : List Operation.Info) (input : SolverInput) (stored : Bool)
    {run : Run} {scene : Scene (Scripted × List Consultation)} {clear : Scripted}
    (hpending : run.Pending thread scene.outside.1) (hdone : run.stage ≠ .done)
    (hfree : thread ∉ scene.outside.1.store.claims)
    (hclear : clear.scripts = scene.outside.1.scripts.cleared) (watched : Bool) (fault : RunFault) :
    ∃ (store : Checkpoint.Store) (outcome : Except RunFault Run)
      (after : Scene (Scripted × List Consultation)),
      again (Scripted.team catalog input true).noted thread watched fault scene = (outcome, after) ∧
      Attempt catalog input stored thread run ({ scene.outside.1 with store }, scene.outside.2)
        clear (outcome.map (·.watch run.task.watched)) after.outside := by
  obtain ⟨store, outcome, after, hlimits, hkept, hagain, hcourse⟩ :=
    again_of_pending catalog input hpending hdone hfree watched fault
  have hpending' : run.Pending thread { scene.outside.1 with store } := by
    refine ⟨hpending.stage, hpending.fits, ?_, fun hgoes ↦ ?_⟩
    · rw [hlimits]
      exact hpending.roomy
    · rw [hkept]
      exact hpending.kept hgoes
  have hkeep (other : Run) (outside : Scripted × List Consultation) :
      (Scripted.team catalog input true).noted.keep thread (other.watch run.task.watched) outside =
        (Scripted.team catalog input true).noted.keep thread other outside := by
    rw [Team.keep_noted, Team.keep_noted, Scripted.keep_watch]
  have hstage : (run.watch watched).stage ≠ .plan := hpending.stage
  have hback := hcourse.watch hkeep hstage
  rw [watch_watch, watch_self] at hback
  exact ⟨store, outcome, after, hagain,
    hback.attempt hpending' hclear fun hclaimed ↦ by cases hclaimed⟩

section Insisting

variable (catalog : List Operation.Info) (input : SolverInput) (stored : Bool) (thread : String)

/-- Whether a run is done in the end if it is driven on the cleared scripts. -/
def Succeeds (run : Run) (clear : Scripted) : Prop :=
  ∃ notes final last, run.Drives (Scripted.team catalog input stored).noted thread false
    (clear, notes) (.ok final) last

/-- Whether a run was done in the end as it is if it is driven on the cleared scripts, and with the
same calls, but for those that had to be made again. -/
def Prevails (run : Run) (notes : List Consultation) (clear : Scripted)
    (result : Except RunFault Run × Scene (Scripted × List Consultation)) : Prop :=
  ∃ final log plain cleared, result.1 = .ok final ∧ result.2.outside.2 = notes ++ log ∧
    Retried log plain ∧
    ∀ notes, run.Drives (Scripted.team catalog input stored).noted thread false (clear, notes)
      (.ok (final.watch run.task.watched)) (cleared, notes ++ plain)

end Insisting

theorem insist_ok (team : Team σ) (thread : String) (watches : List Bool) (run : Run)
    (scene : Scene σ) : insist team thread watches (.ok run, scene) = (.ok run, scene) := by
  cases watches <;> rfl

/-- A run that was done at once has prevailed. -/
theorem prevails_of_completed {run final : Run} {before : Scripted × List Consultation}
    {clear : Scripted} {scene : Scene (Scripted × List Consultation)}
    (hattempt : Attempt catalog input stored thread run before clear
      (.ok (final.watch run.task.watched)) scene.outside) :
    Prevails catalog input stored thread run before.2 clear (.ok final, scene) := by
  cases hattempt with
  | completed calls cleared hcalls hnotes hdrives =>
    have hretried : Retried (calls ++ []) (calls ++ []) := .append hcalls .nil
    rw [List.append_nil] at hretried
    exact ⟨final, calls, calls, cleared, rfl, hnotes, hretried, hdrives⟩

/-- A run that passes through another one succeeds if that one does, and then no failing outcome was
missing where it was interrupted. -/
theorem Succeeds.of_passes {run next : Run} {calls : List Consultation}
    {clear cleared : Scripted}
    (hpasses : run.Passes (Scripted.team catalog input stored) thread clear calls next cleared)
    (hdone : next.stage ≠ .done) (h : Succeeds catalog input stored thread run clear) :
    Succeeds catalog input stored thread next cleared ∧
      (next.turn (Scripted.team catalog input stored) cleared).1 = none := by
  obtain ⟨notes, final, last, hsucceeds⟩ := h
  have hnext := (hpasses notes _ last).mp hsucceeds
  have hnone := hnext.turn_eq_none hdone
  rw [turn_noted] at hnone
  exact ⟨⟨_, final, last, hnext⟩, hnone⟩

/-- A run prevails if the run at which it was interrupted does. -/
theorem Prevails.of_passes {run next : Run} {notes calls failed : List Consultation}
    {clear cleared : Scripted} {before after : Nat}
    {result : Except RunFault Run × Scene (Scripted × List Consultation)}
    (hcalls : ∀ call ∈ calls, ∃ value, call.outcome = .ok value)
    (hpasses : run.Passes (Scripted.team catalog input stored) thread clear calls next cleared)
    (htask : next.task = run.task) (hdone : next.stage ≠ .done)
    (hstops : next.Stops (Scripted.team catalog input stored) cleared failed before after)
    (h : Prevails catalog input stored thread next (notes ++ calls ++ failed) cleared result) :
    Prevails catalog input stored thread run notes clear result := by
  obtain ⟨final, log, plain, last, hresult, hlog, hretried, hplain⟩ := h
  rw [htask] at hplain
  have hnone := (hplain []).turn_eq_none hdone
  rw [turn_noted] at hnone
  obtain ⟨inquiry, refusal, hinquiry, rfl, -⟩ := hstops.of_success hnone
  obtain ⟨value, rest, rfl⟩ := (hplain []).first_note hdone hinquiry
  refine ⟨final, calls ++ ⟨inquiry, .error refusal⟩ :: log, calls ++ ⟨inquiry, .ok value⟩ :: rest,
    last, hresult, ?_, .append hcalls (.failure hretried), fun notes ↦ ?_⟩
  · rw [hlog]
    simp
  · rw [hpasses, ← List.append_assoc]
    exact hplain (notes ++ calls)

/-- Insisting on a run gets it done as the undisturbed run is done, unless the undisturbed run fails
too or there are at least as many failing outcomes as attempts. -/
theorem insist_of_attempt {run : Run} {before : Scripted × List Consultation} {clear : Scripted}
    {outcome : Except RunFault Run} {scene : Scene (Scripted × List Consultation)}
    (watches : List Bool)
    (hattempt : Attempt catalog input stored thread run before clear
      (outcome.map (·.watch run.task.watched)) scene.outside) :
    Prevails catalog input stored thread run before.2 clear
      (insist (Scripted.team catalog input true).noted thread watches (outcome, scene)) ∨
    (∃ fault, (insist (Scripted.team catalog input true).noted thread watches
      (outcome, scene)).1 = .error fault) ∧
      (Succeeds catalog input stored thread run clear →
        watches.length < before.1.scripts.failures catalog) := by
  induction watches generalizing run before clear outcome scene with
  | nil =>
    cases outcome with
    | ok final => exact .inl (prevails_of_completed hattempt)
    | error fault =>
      refine .inr ⟨⟨fault, rfl⟩, fun hsucceeds ↦ ?_⟩
      cases hattempt with
      | interrupted next _ _ _ _ _ hpasses _ _ hdone _ _ hstops =>
        obtain ⟨-, hnone⟩ := hsucceeds.of_passes hpasses hdone
        obtain ⟨_, _, _, _, hless⟩ := hstops.of_success hnone
        exact Nat.zero_lt_of_lt hless
  | cons watched rest ih =>
    cases outcome with
    | ok final =>
      rw [insist_ok]
      exact .inl (prevails_of_completed hattempt)
    | error fault =>
      cases hattempt with
      | interrupted next calls failed cleared hcalls hnotes hpasses htask hpending hdone hfree
          hcleared hstops =>
        obtain ⟨store, outcome, after, hagain, hnext⟩ :=
          attempt_again catalog input stored hpending hdone hfree hcleared watched fault
        rw [insist, hagain]
        rcases ih hnext with hprevails | ⟨hfault, hless⟩
        · left
          dsimp only at hprevails
          rw [hnotes] at hprevails
          exact .of_passes hcalls hpasses htask hdone hstops hprevails
        · refine .inr ⟨hfault, fun hsucceeds ↦ ?_⟩
          obtain ⟨hsucceeds', hnone⟩ := hsucceeds.of_passes hpasses hdone
          have hrest : rest.length < scene.outside.1.scripts.failures catalog := hless hsucceeds'
          obtain ⟨_, _, _, _, hfewer⟩ := hstops.of_success hnone
          simp only [List.length_cons]
          omega

/-! ### Perseverance -/

/-- The first attempt at a task whose planner writes a plan. -/
theorem attempt_perform (catalog : List Operation.Info) (input : SolverInput) (stored : Bool)
    (task : Task) {scripts : Scripts} {store : Checkpoint.Store} (store' : Checkpoint.Store)
    {reply : Reply String} {text : String} {plan : Plan}
    (hreply : scripts.planner.head? = some reply) (htext : reply.outcome = .ok text)
    (hparse : Plan.parse text = .ok plan) (hsize : plan.size < 2 ^ 64)
    (hroomy : store.limits.roomy) (hfree : thread ∉ store.claims) :
    let attempt := perform (Scripted.team catalog input true).noted thread task
      { outside := (⟨scripts, store⟩, []) }
    Attempt catalog input stored thread (start task) (⟨scripts, store⟩, [])
      ⟨scripts.cleared, store'⟩ attempt.1 attempt.2.outside := by
  intro attempt
  have hdrives := drives_perform (Scripted.team catalog input true).noted thread task
    { outside := (⟨scripts, store⟩, []) }
  let team := Scripted.team catalog input true
  let planned : Run := { start task with plan := some plan, stage := .tool }
  let moved := (team.ask (.plan task) ⟨scripts, store⟩).2
  have hdone : (start task).stage ≠ .done := by simp [start]
  have hplanned : planned.stage ≠ .plan := by simp [planned]
  have hfits : planned.Fits := ⟨plan, rfl, hsize, Nat.zero_le _⟩
  have hplanner : (team.planner task ⟨scripts, store⟩).1.outcome = .ok text := by
    obtain ⟨rest, hscript⟩ := List.head?_eq_some_iff.mp hreply
    simp [team, Scripted.team, Scripted.follow, Scripts.Part.planner, hscript, htext]
  have hturn : (start task).turn team ⟨scripts, store⟩ = (none, planned, moved) :=
    turn_start hplanner hparse
  have hstore : moved.store = store := by
    have hkept := Scripted.store_turn catalog input true (start task) ⟨scripts, store⟩
    rw [hturn] at hkept
    exact hkept
  refine .onward hdone rfl hturn fun cleared hcleared ↦ ?_
  have hkeep : team.keep thread planned moved =
      (.ok (), { moved with store := Scripted.kept thread planned moved.store }) :=
    Scripted.keep_stored planned moved
  have hrest := hdrives.rest hdone (turn_noted_of_turn hturn []) (Team.keep_noted_of_keep hkeep _)
  refine hrest.attempt ?_ hcleared fun _ ↦ ?_
  · exact Scripted.pending_kept hplanned hfits (by rw [hstore]; exact hroomy)
  · exact Scripted.notMem_claims_kept planned (by rw [hstore]; exact hfree)

/-- Persevering with a task comes to the same as never having failed. The scripts may fail anywhere
but in the first plan, whose steps are counted in 64 bits, and the undisturbed run follows the
cleared scripts, with any store or without one. If perseverance ends well, so does the undisturbed
run, with the same task, plan, results, cursor and answer, and with the same successful calls in the
same order; each call that failed was made again next. If the undisturbed run ends well, so does
perseverance, after as many resumptions as there are failing outcomes. -/
theorem persevere_scripted (catalog : List Operation.Info) (input : SolverInput) (stored : Bool)
    (thread : String) (task : Task) {scripts : Scripts} {store : Checkpoint.Store}
    (store' : Checkpoint.Store) {reply : Reply String} {text : String} {plan : Plan}
    (hreply : scripts.planner.head? = some reply) (htext : reply.outcome = .ok text)
    (hparse : Plan.parse text = .ok plan) (hsize : plan.size < 2 ^ 64)
    (hroomy : store.limits.roomy) (hfree : thread ∉ store.claims) (watches : List Bool) :
    let persevered := persevere (Scripted.team catalog input true).noted thread task watches
      { outside := (⟨scripts, store⟩, []) }
    let undisturbed := perform (Scripted.team catalog input stored).noted thread task
      { outside := (⟨scripts.cleared, store'⟩, []) }
    (∀ run, persevered.1 = .ok run →
      undisturbed.1 = .ok (run.watch task.watched) ∧
      persevered.2.outside.2.filter (·.outcome.isOk) = undisturbed.2.outside.2 ∧
      Retried persevered.2.outside.2 undisturbed.2.outside.2) ∧
    ((∃ run, undisturbed.1 = .ok run) → scripts.failures catalog ≤ watches.length →
      ∃ run, persevered.1 = .ok run) := by
  intro persevered undisturbed
  let first := perform (Scripted.team catalog input true).noted thread task
    { outside := (⟨scripts, store⟩, []) }
  have hclear := drives_perform (Scripted.team catalog input stored).noted thread task
    { outside := (⟨scripts.cleared, store'⟩, []) }
  have hfirst : first.1.map (·.watch task.watched) = first.1 := by
    have hdrives := drives_perform (Scripted.team catalog input true).noted thread task
      { outside := (⟨scripts, store⟩, []) }
    cases hcase : first.1 with
    | error fault => rfl
    | ok final =>
      have htask : final.task = task := hdrives.task final hcase
      rw [← htask]
      rfl
  have hattempt : Attempt catalog input stored thread (start task) (⟨scripts, store⟩, [])
      ⟨scripts.cleared, store'⟩ (first.1.map (·.watch (start task).task.watched))
      first.2.outside := by
    rw [show (start task).task = task from rfl, hfirst]
    exact attempt_perform catalog input stored task store' hreply htext hparse hsize hroomy hfree
  rcases insist_of_attempt watches hattempt with
    ⟨final, log, plain, cleared, hfinal, hlog, hretried, hdrives⟩ | ⟨⟨fault, hfault⟩, hless⟩
  · have hpersevered : persevered.1 = .ok final := hfinal
    have hnotes : persevered.2.outside.2 = log := hlog
    obtain ⟨houtcome, hafter⟩ := hclear.unique (hdrives [])
    have hplain : undisturbed.2.outside.2 = plain := congrArg Prod.snd hafter
    refine ⟨fun run hrun ↦ ?_, fun _ _ ↦ ⟨final, hpersevered⟩⟩
    obtain rfl : final = run := by simpa [hpersevered] using hrun
    rw [hnotes, hplain]
    exact ⟨houtcome, hretried.filter_eq, hretried⟩
  · have hpersevered : persevered.1 = .error fault := hfault
    refine ⟨fun run hrun ↦ ?_, ?_⟩
    · rw [hpersevered] at hrun
      cases hrun
    · rintro ⟨run, hrun⟩ hcount
      have hsucceeds :
          Succeeds catalog input stored thread (start task) ⟨scripts.cleared, store'⟩ :=
        ⟨[], run, _, by rw [← hrun]; exact hclear⟩
      exact absurd (hless hsucceeds) (Nat.not_lt.mpr hcount)

/-- The language model and the solver fail once each. The second resumption gets the answer. -/
theorem persevere_scripted_two_failures :
    let text := "a #E1=LLM[\x7bx\x7d]"
    let down : Fault := .internal "down"
    let scripts : Scripts :=
      { planner := [⟨.ok text, [], []⟩]
        oracle := [⟨.error down, [], []⟩, ⟨.ok "yes", [], []⟩]
        solver := [⟨.error down, [], []⟩, ⟨.ok "done", [], []⟩]
        operations := fun _ ↦ [] }
    let task : Task := { instruction := "t", actor := "u-1" }
    let persevered := persevere (Scripted.team [] .lastInserted true).noted "t-1" task [true, false]
      { outside := (⟨scripts, {}⟩, []) }
    ∃ run, persevered.1 = .ok run ∧ run.answer = some "done" := by
  intro text down scripts task persevered
  let step : Step := ⟨"a", "#E1", "LLM", "\x7bx\x7d"⟩
  let plan : Plan := ⟨[step], text⟩
  have hparse : Plan.parse text = .ok plan := Plan.parse_of_toOption (by decide +kernel)
  let planned : Run := { start task with plan := some plan, stage := .tool }
  let stepped := planned.keepOutput plan step (Step.output (.str "yes"))
  let final : Run := { stepped with answer := some "done", stage := .done }
  let team := Scripted.team [] .lastInserted false
  have hplan : (start task).turn team ⟨scripts.cleared, {}⟩ =
      (none, planned, ⟨{ scripts.cleared with planner := [] }, {}⟩) := turn_start rfl hparse
  have hsolve : stepped.stage ≠ .done := by
    simp [stepped, planned, keepOutput, plan, Plan.size]
  obtain ⟨last, hdrives⟩ : ∃ last, (start task).Drives team.noted "t-1" false
      (⟨scripts.cleared, {}⟩, []) (.ok final) last :=
    ⟨_, .noted_onward (by simp [start]) hplan rfl (.noted_onward (by simp [planned]) rfl rfl
      (.noted_onward hsolve rfl rfl (.finished rfl)))⟩
  obtain ⟨hundisturbed, -⟩ := (drives_perform team.noted "t-1" task
    { outside := (⟨scripts.cleared, {}⟩, []) }).unique hdrives
  have hreply : scripts.planner.head? = some ⟨.ok text, [], []⟩ := rfl
  obtain ⟨hsame, hends⟩ := persevere_scripted [] .lastInserted false "t-1" task {} hreply rfl hparse
    (show plan.size < 2 ^ 64 by decide) (show ({} : Checkpoint.Store).limits.roomy by decide)
    (show "t-1" ∉ ({} : Checkpoint.Store).claims by simp) [true, false]
  obtain ⟨run, hrun⟩ := hends ⟨final, hundisturbed⟩ (show scripts.failures [] ≤ 2 by decide)
  refine ⟨run, hrun, ?_⟩
  obtain ⟨hfinal, -⟩ := hsame run hrun
  have hanswer : final = run.watch task.watched := Except.ok.inj (hundisturbed.symm.trans hfinal)
  exact (congrArg Run.answer hanswer).symm

end Run

end Errand
