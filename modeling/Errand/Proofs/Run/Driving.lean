import Errand.Proofs.Run.Travelling

/-!
# The course of a driven run from outside

`Run.Drives team thread claimed run outside outcome after` says how a run is driven to its end, as
far as the outcome and everything outside are concerned: it is done, or its transition fails, or it
cannot be kept after its transition, or it has been kept and is driven on. `drives_complete` says
that a journey takes this course, and `Drives.unique` that there is no other, so statements about
driven runs are proved by induction on the course.
-/

set_option autoImplicit false

namespace Errand

variable {σ : Type}

/-- Keeping a run after a transition, or removing it if it is done, as it is seen from outside. -/
def Team.keep (team : Team σ) (thread : String) (run : Run) (outside : σ) :
    Except Fault Unit × σ :=
  match team.vault with
  | none => (.ok (), outside)
  | some vault =>
    if run.isDone then
      ((vault.delete thread outside).1.outcome.map fun _ ↦ (), (vault.delete thread outside).2)
    else ((vault.save thread run outside).1.outcome, (vault.save thread run outside).2)

/-- Giving back a claim, if there is one, as it is seen from outside. -/
def Team.giveBack (team : Team σ) (thread : String) (claimed : Bool) (outside : σ) : σ :=
  match claimed, team.vault with
  | true, some vault => (vault.release thread outside).2
  | _, _ => outside

namespace Run

/-- The course of a run that is driven to its end. -/
inductive Drives (team : Team σ) (thread : String) (claimed : Bool) :
    Run → σ → Except RunFault Run → σ → Prop
  /-- Nothing is left to do. -/
  | finished {run : Run} {outside : σ} (hdone : run.stage = .done) :
      Drives team thread claimed run outside (.ok run) outside
  /-- The transition fails. -/
  | stopped {run next : Run} {outside after : σ} {fault : RunFault} (hdone : run.stage ≠ .done)
      (hturn : run.turn team outside = (some fault, next, after)) :
      Drives team thread claimed run outside (.error fault) (team.giveBack thread claimed after)
  /-- The run cannot be kept after its transition. -/
  | lost {run next : Run} {outside between after : σ} {fault : Fault} (hdone : run.stage ≠ .done)
      (hturn : run.turn team outside = (none, next, between))
      (hkeep : team.keep thread next between = (.error fault, after)) :
      Drives team thread claimed run outside (.error (.checkpoint fault))
        (team.giveBack thread claimed after)
  /-- The run is kept after its transition and driven on. -/
  | onward {run next : Run} {outside between kept after : σ} {outcome : Except RunFault Run}
      (hdone : run.stage ≠ .done) (hturn : run.turn team outside = (none, next, between))
      (hkeep : team.keep thread next between = (.ok (), kept))
      (hrest : Drives team thread claimed next kept outcome after) :
      Drives team thread claimed run outside outcome after

variable {team : Team σ} {thread : String} {claimed : Bool}

/-- A run that is kept after its transition is driven on from there. -/
theorem Drives.rest {run next : Run} {outside between kept after : σ}
    {outcome : Except RunFault Run} (h : Drives team thread claimed run outside outcome after)
    (hdone : run.stage ≠ .done) (hturn : run.turn team outside = (none, next, between))
    (hkeep : team.keep thread next between = (.ok (), kept)) :
    Drives team thread claimed next kept outcome after := by
  cases h with
  | finished hnot => exact absurd hnot hdone
  | stopped _ hturn' => simp [hturn] at hturn'
  | lost _ hturn' hkeep' =>
    obtain ⟨rfl, rfl⟩ : _ ∧ _ := by simpa [hturn] using hturn'
    simp [hkeep] at hkeep'
  | onward _ hturn' hkeep' hrest =>
    obtain ⟨rfl, rfl⟩ : _ ∧ _ := by simpa [hturn] using hturn'
    obtain rfl : _ = _ := by simpa [hkeep] using hkeep'
    exact hrest

/-- A run can be driven in one way only. -/
theorem Drives.unique {run : Run} {outside : σ} {outcome outcome' : Except RunFault Run}
    {after after' : σ} (h : Drives team thread claimed run outside outcome after)
    (h' : Drives team thread claimed run outside outcome' after') :
    outcome = outcome' ∧ after = after' := by
  induction h with
  | finished hdone =>
    cases h' with
    | finished _ => exact ⟨rfl, rfl⟩
    | stopped hnot _ => exact absurd hdone hnot
    | lost hnot _ _ => exact absurd hdone hnot
    | onward hnot _ _ _ => exact absurd hdone hnot
  | stopped hdone hturn =>
    cases h' with
    | finished hnot => exact absurd hnot hdone
    | stopped _ hturn' =>
      obtain ⟨rfl, rfl, rfl⟩ : _ ∧ _ ∧ _ := by simpa [hturn] using hturn'
      exact ⟨rfl, rfl⟩
    | lost _ hturn' _ => simp [hturn] at hturn'
    | onward _ hturn' _ _ => simp [hturn] at hturn'
  | lost hdone hturn hkeep =>
    cases h' with
    | finished hnot => exact absurd hnot hdone
    | stopped _ hturn' => simp [hturn] at hturn'
    | lost _ hturn' hkeep' =>
      obtain ⟨rfl, rfl⟩ : _ ∧ _ := by simpa [hturn] using hturn'
      obtain ⟨rfl, rfl⟩ : _ ∧ _ := by simpa [hkeep] using hkeep'
      exact ⟨rfl, rfl⟩
    | onward _ hturn' hkeep' _ =>
      obtain ⟨rfl, rfl⟩ : _ ∧ _ := by simpa [hturn] using hturn'
      simp [hkeep] at hkeep'
  | onward hdone hturn hkeep _ ih => exact ih (h'.rest hdone hturn hkeep)

end Run

namespace Journey

variable {team : Team σ} {thread : String} {claimed : Bool}

@[simp] theorem outside_reportEnd (succeeded : Bool) (scene : Scene σ) :
    (reportEnd succeeded scene).outside = scene.outside := rfl

theorem record_eq_keep (team : Team σ) (thread : String) (run : Run) (scene : Scene σ) :
    ((record team thread run scene).1, (record team thread run scene).2.outside) =
      team.keep thread run scene.outside := by
  cases hvault : team.vault with
  | none => simp [record, Team.keep, hvault]
  | some vault =>
    by_cases hdone : run.isDone <;> simp [record, Team.keep, hvault, hdone, Scene.consult]

theorem keep_of_record {run : Run} {scene after : Scene σ} {kept : Except Fault Unit}
    (h : record team thread run scene = (kept, after)) :
    team.keep thread run scene.outside = (kept, after.outside) := by
  rw [← record_eq_keep, h]

theorem outside_leave (team : Team σ) (thread : String) (claimed : Bool) (scene : Scene σ) :
    (leave team thread claimed scene).outside = team.giveBack thread claimed scene.outside := by
  cases claimed with
  | false => rfl
  | true =>
    simp only [leave, release, Team.giveBack]
    cases team.vault <;> rfl

end Journey

/-- The course of a run, as it is seen from outside. -/
theorem Run.Travels.drives {team : Team σ} {thread : String} {claimed : Bool} {run : Run}
    {scene after : Scene σ} {outcome : Except RunFault Run}
    (h : run.Travels team thread claimed scene outcome after) :
    run.Drives team thread claimed scene.outside outcome after.outside := by
  induction h with
  | finished hdone => exact .finished hdone
  | stopped hdone hfault =>
    rw [Journey.outside_leave]
    exact .stopped hdone (turn_of_advance hfault)
  | lost hdone hfault hrecord =>
    rw [Journey.outside_leave]
    exact .lost hdone (turn_of_advance hfault) (Journey.keep_of_record hrecord)
  | onward hdone hfault hrecord _ ih =>
    exact .onward hdone (turn_of_advance hfault) (Journey.keep_of_record hrecord) ih

/-- A journey takes the course of its run. -/
theorem Journey.drives_complete {team : Team σ} {thread : String} {claimed : Bool} (run : Run)
    (scene : Scene σ) :
    run.Drives team thread claimed scene.outside
      ((moving run claimed).complete team thread scene).1
      ((moving run claimed).complete team thread scene).2.outside :=
  (travels_complete run scene).drives

/-- A new run takes its course. -/
theorem Run.drives_perform (team : Team σ) (thread : String) (task : Task) (scene : Scene σ) :
    (start task).Drives team thread false scene.outside (perform team thread task scene).1
      (perform team thread task scene).2.outside :=
  Journey.drives_complete (start task) scene

end Errand
