import Errand.Proofs.Run.Inquiry

/-!
# The course of a driven run on its scene

`Run.Travels team thread claimed run scene outcome after` says how a run is driven to its end with
everything that is shown and reported meanwhile: transition after transition, the run being kept
after each of them. `travels_complete` says that a journey takes this course, so statements about
the events of driven runs are proved by induction on it. Only transitions show anything.
-/

set_option autoImplicit false

namespace Errand

variable {σ α : Type}

namespace Journey

/-- Gives back the claim, if there is one. -/
def leave (team : Team σ) (thread : String) (claimed : Bool) (scene : Scene σ) : Scene σ :=
  if claimed then release team thread scene else scene

end Journey

namespace Run

/-- The course of a run that is driven to its end, with its scene. -/
inductive Travels (team : Team σ) (thread : String) (claimed : Bool) :
    Run → Scene σ → Except RunFault Run → Scene σ → Prop
  /-- Nothing is left to do. -/
  | finished {run : Run} {scene : Scene σ} (hdone : run.stage = .done) :
      Travels team thread claimed run scene (.ok run) (Journey.reportEnd true scene)
  /-- The transition fails. -/
  | stopped {run : Run} {scene : Scene σ} {fault : RunFault} (hdone : run.stage ≠ .done)
      (hfault : (run.advance team scene).fault = some fault) :
      Travels team thread claimed run scene (.error fault)
        (Journey.leave team thread claimed
          (Journey.reportEnd false (run.advance team scene).scene))
  /-- The run cannot be kept after its transition. -/
  | lost {run : Run} {scene after : Scene σ} {fault : Fault} (hdone : run.stage ≠ .done)
      (hfault : (run.advance team scene).fault = none)
      (hrecord : Journey.record team thread (run.advance team scene).run
        (run.advance team scene).scene = (.error fault, after)) :
      Travels team thread claimed run scene (.error (.checkpoint fault))
        (Journey.leave team thread claimed after)
  /-- The run is kept after its transition and driven on. -/
  | onward {run : Run} {scene kept after : Scene σ} {outcome : Except RunFault Run}
      (hdone : run.stage ≠ .done) (hfault : (run.advance team scene).fault = none)
      (hrecord : Journey.record team thread (run.advance team scene).run
        (run.advance team scene).scene = (.ok (), kept))
      (hrest : Travels team thread claimed (run.advance team scene).run kept outcome after) :
      Travels team thread claimed run scene outcome after

end Run

namespace Journey

variable {team : Team σ} {thread : String} {claimed : Bool}

theorem complete_eq (journey : Journey) (scene : Scene σ) :
    journey.complete team thread scene =
      match journey.next team thread scene with
      | (.ended outcome, after) => (outcome, after)
      | (.onward onward, after) => onward.complete team thread after := by
  rw [complete]
  split <;> simp_all

theorem next_of_done {run : Run} (scene : Scene σ) (hdone : run.stage = .done) :
    (moving run claimed).next team thread scene = (.ended (.ok run), reportEnd true scene) := by
  simp [next, Run.isDone, hdone]

theorem next_of_fault {run : Run} {scene : Scene σ} {fault : RunFault} (hdone : run.stage ≠ .done)
    (hfault : (run.advance team scene).fault = some fault) :
    (moving run claimed).next team thread scene =
      (afterFault fault claimed, reportEnd false (run.advance team scene).scene) := by
  simp [next, Run.isDone, hdone, hfault]

theorem next_of_success {run : Run} {scene : Scene σ} (hdone : run.stage ≠ .done)
    (hfault : (run.advance team scene).fault = none) :
    (moving run claimed).next team thread scene =
      (.onward (.recording (run.advance team scene).run claimed),
        (run.advance team scene).scene) := by
  simp [next, Run.isDone, hdone, hfault]

/-- A call that comes to a fault ends the journey, once the claim has been given back. -/
theorem complete_of_fault {journey : Journey} {scene between : Scene σ} {fault : RunFault}
    (h : journey.next team thread scene = (afterFault fault claimed, between)) :
    journey.complete team thread scene = (.error fault, leave team thread claimed between) := by
  rw [complete_eq, h]
  cases claimed with
  | false => rfl
  | true =>
    change (releasing fault).complete team thread between = _
    rw [complete_eq]
    rfl

/-- A journey takes the course of its run. -/
theorem travels_complete (run : Run) (scene : Scene σ) :
    run.Travels team thread claimed scene
      ((moving run claimed).complete team thread scene).1
      ((moving run claimed).complete team thread scene).2 := by
  by_cases hdone : run.stage = .done
  · rw [complete_eq, next_of_done scene hdone]
    exact .finished hdone
  cases hfault : (run.advance team scene).fault with
  | some fault =>
    rw [complete_of_fault (next_of_fault hdone hfault)]
    exact .stopped hdone hfault
  | none =>
    have hcloser := run.closer_advance team scene hfault
    rw [complete_eq, next_of_success hdone hfault]
    dsimp only
    rcases hrecord : record team thread (run.advance team scene).run
      (run.advance team scene).scene with ⟨kept, after⟩
    cases kept with
    | error fault =>
      have hnext : (recording (run.advance team scene).run claimed).next team thread
          (run.advance team scene).scene = (afterFault (.checkpoint fault) claimed, after) := by
        rw [next, hrecord]
      rw [complete_of_fault hnext]
      exact .lost hdone hfault hrecord
    | ok _ =>
      rw [complete_eq]
      simp only [next, hrecord]
      exact .onward hdone hfault hrecord (travels_complete (run.advance team scene).run after)
termination_by (run.stagesLeft, run.stepsLeft)
decreasing_by
  rcases hcloser with hstages | ⟨hstages, hsteps⟩
  · exact .left _ _ hstages
  · rw [hstages]
    exact .right _ hsteps

end Journey

/-! ### Events -/

namespace Scene

theorem events_consult (watched : Bool) (call : Consult σ α) (scene : Scene σ) :
    (scene.consult watched call).2.events = scene.events ++
      if watched then (call scene.outside).1.tokens.map Event.token else [] := rfl

theorem events_consult_unwatched (call : Consult σ α) (scene : Scene σ) :
    (scene.consult false call).2.events = scene.events :=
  List.append_nil _

@[simp] theorem events_report (sample : Metrics.Sample) (scene : Scene σ) :
    (scene.report sample).events = scene.events := rfl

theorem events_emit (event : Event) (scene : Scene σ) :
    (scene.emit true event).events = scene.events ++ [event] := rfl

end Scene

namespace Journey

@[simp] theorem events_reportEnd (succeeded : Bool) (scene : Scene σ) :
    (reportEnd succeeded scene).events = scene.events := rfl

/-- Keeping a run shows nothing. -/
theorem events_record (team : Team σ) (thread : String) (run : Run) (scene : Scene σ) :
    (record team thread run scene).2.events = scene.events := by
  unfold record
  split
  · rfl
  · split <;> exact List.append_nil _

end Journey

end Errand
