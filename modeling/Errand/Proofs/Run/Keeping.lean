import Errand.Proofs.Plan.Recognition
import Errand.Proofs.Run.Attempt
import Errand.Service.Memory

/-!
# Teams whose vault is a store in memory

`Team.KeepsIn team place` says that the vault of a team is the store in memory that stands at a
place in everything outside, and that no collaborator touches that store. Then all that a run does
to the store is known: `KeepsIn.turn`, `KeepsIn.keep`, `KeepsIn.giveBack` and `KeepsIn.claim` say it
call by call.

`Run.Keepable` is what holds of every run that is kept. A new run that has been planned is keepable,
if the texts of the planner are such as memory can hold (`Team.Brief`), and a keepable run stays so
until it is done (`Ready.done_or_keepable`).
-/

set_option autoImplicit false

namespace Errand

open Scripted (kept)

variable {σ α : Type}

/-- Whether a call does to the store at a place what a call of the store does. -/
def Consult.Follows (call : Consult σ α) (place : σ → Checkpoint.Store)
    (base : Consult Checkpoint.Store α) : Prop :=
  ∀ outside, (call outside).1.outcome = (base (place outside)).1.outcome ∧
    place (call outside).2 = (base (place outside)).2

/-- Whether a vault is the store at a place. -/
structure Vault.Follows (vault : Vault σ) (place : σ → Checkpoint.Store) : Prop where
  save : ∀ thread run,
    (vault.save thread run).Follows place (Checkpoint.Store.vault.save thread run)
  load : ∀ thread, (vault.load thread).Follows place (Checkpoint.Store.vault.load thread)
  claim : ∀ thread, (vault.claim thread).Follows place (Checkpoint.Store.vault.claim thread)
  release : ∀ thread, (vault.release thread).Follows place (Checkpoint.Store.vault.release thread)
  delete : ∀ thread, (vault.delete thread).Follows place (Checkpoint.Store.vault.delete thread)

/-- Whether the vault of a team is the store at a place, and nobody else touches that store. -/
structure Team.KeepsIn (team : Team σ) (place : σ → Checkpoint.Store) : Prop where
  vault : ∃ vault, team.vault = some vault ∧ vault.Follows place
  ask : ∀ inquiry outside, place (team.ask inquiry outside).2 = place outside

/-- Whether the texts of a planner are such as memory can hold. -/
def Team.Brief (team : Team σ) : Prop :=
  ∀ task outside text, (team.planner task outside).1.outcome = .ok text → text.length < 2 ^ 64

/-- The vault of a service that keeps everything in memory is the store in its memory. -/
theorem Service.Memory.vault_follows : Memory.vault.Follows Memory.checkpoints where
  save _ _ _ := ⟨rfl, rfl⟩
  load _ _ := ⟨rfl, rfl⟩
  claim _ _ := ⟨rfl, rfl⟩
  release _ _ := ⟨rfl, rfl⟩
  delete _ _ := ⟨rfl, rfl⟩

/-- A team that keeps runs in memory. Its planner writes one text for every task that is not empty,
its language model says yes to every prompt, and its solver never answers. -/
def Team.unanswering (plan : String) : Team Checkpoint.Store where
  planner task :=
    if task.instruction.isEmpty then .fail (.internal "No task") else .succeed plan
  oracle _ := .succeed "yes"
  solver _ := .fail (.internal "No answer")
  registry := {}
  vault := some Checkpoint.Store.vault

theorem Team.keepsIn_unanswering (plan : String) : (unanswering plan).KeepsIn id where
  vault := ⟨Checkpoint.Store.vault, rfl,
    { save := fun _ _ _ ↦ ⟨rfl, rfl⟩
      load := fun _ _ ↦ ⟨rfl, rfl⟩
      claim := fun _ _ ↦ ⟨rfl, rfl⟩
      release := fun _ _ ↦ ⟨rfl, rfl⟩
      delete := fun _ _ ↦ ⟨rfl, rfl⟩ }⟩
  ask inquiry outside := by
    cases inquiry with
    | plan task =>
      rw [ask, Consult.outside_map]
      simp only [unanswering]
      split <;> rfl
    | prompt text => rfl
    | operation name parameters context => rfl
    | answer request => rfl

theorem Team.brief_unanswering {plan : String} (h : plan.length < 2 ^ 64) :
    (unanswering plan).Brief := by
  intro task outside text htext
  simp only [unanswering] at htext
  split at htext
  · cases htext
  · cases htext
    exact h

/-! ### What a run does to the store -/

section Calls

variable {team : Team σ} {place : σ → Checkpoint.Store}

/-- No transition touches the store. -/
theorem Team.KeepsIn.turn (hteam : team.KeepsIn place) (run : Run) (outside : σ) :
    place (run.turn team outside).2.2 = place outside := by
  cases hinquiry : run.inquiry team with
  | error fault => rw [Run.turn_of_silent outside hinquiry]
  | ok inquiry =>
    have hplace := hteam.ask inquiry outside
    rw [Run.turn_of_asked outside hinquiry]
    cases (team.ask inquiry outside).1.outcome with
    | error fault => exact hplace
    | ok value =>
      dsimp only
      cases run.settle value <;> exact hplace

/-- Keeping a run never fails, and changes the store only. -/
theorem Team.KeepsIn.keep (hteam : team.KeepsIn place) (thread : String) (run : Run)
    (outside : σ) :
    ∃ after, team.keep thread run outside = (.ok (), after) ∧
      place after = kept thread run (place outside) := by
  obtain ⟨vault, hvault, hfollows⟩ := hteam.vault
  unfold Team.keep
  simp only [hvault]
  by_cases hdone : run.isDone
  · obtain ⟨houtcome, hplace⟩ := hfollows.delete thread outside
    refine ⟨(vault.delete thread outside).2, ?_, ?_⟩
    · rw [if_pos hdone, houtcome]
      rfl
    · rw [hplace, kept, if_pos hdone]
      rfl
  · obtain ⟨houtcome, hplace⟩ := hfollows.save thread run outside
    refine ⟨(vault.save thread run outside).2, ?_, ?_⟩
    · rw [if_neg hdone, houtcome]
      rfl
    · rw [hplace, kept, if_neg hdone]
      rfl

/-- Giving back a claim releases the thread. -/
theorem Team.KeepsIn.giveBack (hteam : team.KeepsIn place) (thread : String) (claimed : Bool)
    (outside : σ) :
    place (team.giveBack thread claimed outside) =
      if claimed then (place outside).release thread else place outside := by
  obtain ⟨vault, hvault, hfollows⟩ := hteam.vault
  cases claimed with
  | false => simp [Team.giveBack]
  | true =>
    simp only [Team.giveBack, hvault, if_true]
    exact (hfollows.release thread outside).2

/-- Claiming a run is claiming it of the store. -/
theorem Team.KeepsIn.claim (hteam : team.KeepsIn place) (thread : String) (scene : Scene σ) :
    ∃ after, Run.claim team thread scene =
        (((place scene.outside).claim thread).1.mapError .checkpoint, after) ∧
      place after.outside = ((place scene.outside).claim thread).2 := by
  obtain ⟨vault, hvault, hfollows⟩ := hteam.vault
  obtain ⟨houtcome, hplace⟩ := hfollows.claim thread scene.outside
  refine ⟨(scene.consult false (vault.claim thread)).2, ?_, hplace⟩
  simp only [Run.claim, hvault, Scene.outcome_consult, houtcome]
  rfl

end Calls

/-! ### Runs that are kept -/

namespace Run

/-- What holds of every run that is kept: it is to carry out a step or to be answered, and its steps
can be counted in 64 bits. -/
structure Keepable (run : Run) : Prop where
  stage : run.stage = .tool ∨ run.stage = .solve
  fits : run.Fits

/-- Whether nothing of a run is done yet. -/
def Fresh (run : Run) : Prop :=
  run.stage = .plan ∧ run.cursor = 0

variable {run next : Run}

theorem fresh_start (task : Task) : (start task).Fresh := ⟨rfl, rfl⟩

theorem Keepable.watch (h : run.Keepable) (watched : Bool) : (run.watch watched).Keepable :=
  ⟨h.stage, h.fits⟩

theorem Keepable.stage_ne_plan (h : run.Keepable) : run.stage ≠ .plan := by
  rcases h.stage with hstage | hstage <;> simp [hstage]

theorem Keepable.stage_ne_done (h : run.Keepable) : run.stage ≠ .done := by
  rcases h.stage with hstage | hstage <;> simp [hstage]

theorem Keepable.cursor_lt (h : run.Keepable) : run.cursor < 2 ^ 64 := by
  obtain ⟨plan, -, hsize, hcursor⟩ := h.fits
  exact Nat.lt_of_le_of_lt hcursor hsize

theorem Keepable.of_fits (hplan : run.stage ≠ .plan) (hdone : run.stage ≠ .done)
    (hfits : run.Fits) : run.Keepable := by
  refine ⟨?_, hfits⟩
  cases hstage : run.stage with
  | plan => exact absurd hstage hplan
  | tool => exact .inl rfl
  | solve => exact .inr rfl
  | done => exact absurd hstage hdone

/-- Once it has been planned, a new run fits. -/
theorem Fresh.fits_of_turn {team : Team σ} {outside after : σ} (hbrief : team.Brief)
    (hfresh : run.Fresh) (hturn : run.turn team outside = (none, next, after)) : next.Fits := by
  obtain ⟨hstage, hcursor⟩ := hfresh
  obtain ⟨inquiry, value, hinquiry, hreply, hsettle, -⟩ := turn_of_success hturn
  obtain rfl : Inquiry.plan run.task = inquiry :=
    Except.ok.inj ((inquiry_plan team hstage).symm.trans hinquiry)
  rw [Team.ask, Consult.outcome_map] at hreply
  cases htext : (team.planner run.task outside).1.outcome with
  | error fault => simp [htext, Except.map] at hreply
  | ok text =>
    obtain rfl : Json.str text = value := by simpa [htext, Except.map] using hreply
    rw [settle_plan text hstage] at hsettle
    cases hparse : Plan.parse text with
    | error fault => simp [hparse] at hsettle
    | ok plan =>
      simp only [hparse] at hsettle
      cases hsettle
      have hsize := Plan.size_le_length_of_parse hparse
      refine ⟨plan, rfl, Nat.lt_of_le_of_lt hsize (hbrief _ _ _ htext), ?_⟩
      exact hcursor ▸ Nat.zero_le plan.size

/-- Whether a run can be kept after its next transition: it can be kept as it is, or nothing of it
is done yet and the planner is brief. -/
def Ready (team : Team σ) (run : Run) : Prop :=
  run.Keepable ∨ run.Fresh ∧ team.Brief

/-- After a transition a run is done or can be kept. -/
theorem Ready.done_or_keepable {team : Team σ} {outside after : σ} (hrun : run.Ready team)
    (hturn : run.turn team outside = (none, next, after)) :
    next.stage = .done ∨ next.Keepable := by
  have hfits : next.Fits := by
    rcases hrun with hkeepable | ⟨hfresh, hbrief⟩
    · exact hkeepable.fits.turn hkeepable.stage_ne_plan hturn
    · exact hfresh.fits_of_turn hbrief hturn
  by_cases hdone : next.stage = .done
  · exact .inl hdone
  · exact .inr (.of_fits (stage_ne_plan_of_turn hturn) hdone hfits)

end Run

end Errand
