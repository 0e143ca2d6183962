import Errand.Run.Advance

/-!
# Driving a run to its end

A run is driven by making transitions and keeping the run in the vault after each of them; a run
that is done is removed from the vault. `Journey` says what comes next between two such calls, and
`Journey.next` makes the one call that is due, so that a journey can be followed call by call beside
others. `Journey.complete` makes the calls until the run is done or a fault ends it. A run that
was claimed gives the claim back when a fault ends it.

A run that is done, and one whose transition fails, reports how it ended; one that could not be kept
reports nothing.
-/

set_option autoImplicit false

namespace Errand

variable {σ : Type}

/-- What comes next for a run that is under way. -/
inductive Journey
  /-- A transition. -/
  | moving (run : Run) (claimed : Bool)
  /-- Keeping the run. -/
  | recording (run : Run) (claimed : Bool)
  /-- Giving back the claim because of a fault. -/
  | releasing (fault : RunFault)
deriving DecidableEq, Repr

/-- What comes of one call: the journey goes on, or it ends. -/
inductive Journey.Next
  | onward (journey : Journey)
  | ended (outcome : Except RunFault Run)

namespace Journey

/-- Reports how a run ended. -/
def reportEnd (succeeded : Bool) (scene : Scene σ) : Scene σ :=
  let labels := [("status", Metrics.status succeeded)]
  (scene.report (.count "workflow_runs_total" labels)).report
    (.measure "workflow_run_duration_seconds" labels)

/-- Keeps a run in the vault, or removes it if it is done. -/
def record (team : Team σ) (thread : String) (run : Run) (scene : Scene σ) :
    Except Fault Unit × Scene σ :=
  match team.vault with
  | none => (.ok (), scene)
  | some vault =>
    if run.isDone then
      let (outcome, scene) := scene.consult false (vault.delete thread)
      (outcome.map fun _ => (), scene)
    else scene.consult false (vault.save thread run)

/-- Gives back the claim to a thread; whether that succeeds does not matter. -/
def release (team : Team σ) (thread : String) (scene : Scene σ) : Scene σ :=
  match team.vault with
  | none => scene
  | some vault => (scene.consult false (vault.release thread)).2

/-- What follows a fault. -/
def afterFault (fault : RunFault) (claimed : Bool) : Next :=
  if claimed then .onward (.releasing fault) else .ended (.error fault)

/-- Makes the call that is due. -/
def next (team : Team σ) (thread : String) (journey : Journey) (scene : Scene σ) :
    Next × Scene σ :=
  match journey with
  | .moving run claimed =>
    if run.isDone then (.ended (.ok run), reportEnd true scene)
    else
      let transition := run.advance team scene
      match transition.fault with
      | some fault => (afterFault fault claimed, reportEnd false transition.scene)
      | none => (.onward (.recording transition.run claimed), transition.scene)
  | .recording run claimed =>
    match record team thread run scene with
    | (.error fault, scene) => (afterFault (.checkpoint fault) claimed, scene)
    | (.ok _, scene) => (.onward (.moving run claimed), scene)
  | .releasing fault => (.ended (.error fault), release team thread scene)

/-- The stages left, the steps left, and the calls left before one of these gets smaller. -/
def left : Journey → Nat × Nat × Nat
  | .moving run _ => (run.stagesLeft, run.stepsLeft, 1)
  | .recording run _ => (run.stagesLeft, run.stepsLeft, 2)
  | .releasing _ => (0, 0, 0)

/-- The order in which journeys come closer to their end. -/
def Nearer : Nat × Nat × Nat → Nat × Nat × Nat → Prop :=
  Prod.Lex (· < ·) (Prod.Lex (· < ·) (· < ·))

theorem nearer_of_closer {a b : Run} (h : Run.Closer a b) (m n : Nat) :
    Nearer (a.stagesLeft, a.stepsLeft, m) (b.stagesLeft, b.stepsLeft, n) := by
  rcases h with h | ⟨he, h⟩
  · exact .left _ _ h
  · rw [he]
    exact .right _ (.left _ _ h)

theorem nearer_releasing (a b n : Nat) : Nearer (0, 0, 0) (a, b, n + 1) := by
  rcases Nat.eq_zero_or_pos a with rfl | ha
  · rcases Nat.eq_zero_or_pos b with rfl | hb
    · exact .right _ (.right _ (Nat.succ_pos n))
    · exact .right _ (.left _ _ hb)
  · exact .left _ _ ha

/-- Every call brings a journey nearer to its end. -/
theorem nearer_next {team : Team σ} {thread : String} {journey onward : Journey} {scene : Scene σ}
    (h : (journey.next team thread scene).1 = .onward onward) :
    Nearer onward.left journey.left := by
  cases journey with
  | moving run claimed =>
    simp only [next] at h
    split at h
    · cases h
    · split at h
      · next fault _ =>
        simp only [afterFault] at h
        split at h
        · cases h
          exact nearer_releasing _ _ _
        · cases h
      · next hfault =>
        cases h
        exact nearer_of_closer (run.closer_advance team scene hfault) _ _
  | recording run claimed =>
    simp only [next] at h
    split at h
    · simp only [afterFault] at h
      split at h
      · cases h
        exact nearer_releasing _ _ _
      · cases h
    · cases h
      exact .right _ (.right _ (by decide))
  | releasing fault =>
    simp [next] at h

/-- Makes calls until the journey ends. -/
def complete (team : Team σ) (thread : String) (journey : Journey) (scene : Scene σ) :
    Except RunFault Run × Scene σ :=
  match _h : journey.next team thread scene with
  | (.ended outcome, scene) => (outcome, scene)
  | (.onward onward, scene) => complete team thread onward scene
termination_by journey.left
decreasing_by exact nearer_next (by rw [_h])

end Journey

namespace Run

/-- Drives a run to its end. -/
def drive (team : Team σ) (thread : String) (run : Run) (scene : Scene σ) :
    Except RunFault Run × Scene σ :=
  (Journey.moving run false).complete team thread scene

/-- Drives a run of a new task to its end. -/
def perform (team : Team σ) (thread : String) (task : Task) (scene : Scene σ) :
    Except RunFault Run × Scene σ :=
  (start task).drive team thread scene

/-- Claims the run that is kept for a thread, so that no other caller can resume it. -/
def claim (team : Team σ) (thread : String) (scene : Scene σ) :
    Except RunFault (Option Run) × Scene σ :=
  match team.vault with
  | none => (.ok none, scene)
  | some vault =>
    let (outcome, scene) := scene.consult false (vault.claim thread)
    (outcome.mapError .checkpoint, scene)

/-- Drives a run that was claimed to its end. -/
def resumeClaimed (team : Team σ) (thread : String) (run : Run) (watched : Bool)
    (scene : Scene σ) : Except RunFault Run × Scene σ :=
  (Journey.moving { run with task := { run.task with watched } } true).complete team thread scene

/-- Claims the run that is kept for a thread and drives it to its end, if there is one. -/
def resume (team : Team σ) (thread : String) (watched : Bool) (scene : Scene σ) :
    Except RunFault (Option Run) × Scene σ :=
  match claim team thread scene with
  | (.error fault, scene) => (.error fault, scene)
  | (.ok none, scene) => (.ok none, scene)
  | (.ok (some run), scene) =>
    let (outcome, scene) := run.resumeClaimed team thread watched scene
    (outcome.map some, scene)

end Run

end Errand
