import Errand.Operation.Registry
import Errand.Run.Event
import Errand.Run.Synthesis

/-!
# The collaborators of a run

A run needs a planner, a solver, a language model for the steps that address it, the registered
operations, and possibly a vault that keeps its progress. A `Scene` is what a run acts in: the state
of everything outside, the events shown so far and the samples reported so far.
-/

set_option autoImplicit false

namespace Errand

/-- A place that keeps the progress of runs, by thread. One caller at a time may claim a thread. -/
structure Vault (σ : Type) where
  /-- Keeps a run. -/
  save : String → Run → Consult σ Unit
  /-- The run that is kept. -/
  load : String → Consult σ (Option Run)
  /-- The run that is kept, for the caller alone. -/
  claim : String → Consult σ (Option Run)
  /-- Gives a claim back. -/
  release : String → Consult σ Unit
  /-- Forgets a run and any claim to it; says whether there was one. -/
  delete : String → Consult σ Bool

/-- The collaborators of runs. -/
structure Team (σ : Type) where
  /-- Writes a plan for a task. -/
  planner : Task → Consult σ String
  /-- Answers a prompt. -/
  oracle : String → Consult σ String
  /-- Makes an answer of a result. -/
  solver : SolverRequest → Consult σ String
  /-- The operations that steps may name. -/
  registry : Registry σ
  /-- The place that keeps progress, if there is one. -/
  vault : Option (Vault σ) := none
  /-- Which result the solver is given. -/
  solverInput : SolverInput := .lastInserted

/-- What a run acts in. -/
structure Scene (σ : Type) where
  /-- The state of everything outside. -/
  outside : σ
  /-- The events shown so far, in order. -/
  events : List Event := []
  /-- The samples reported so far, in order. -/
  samples : List Metrics.Sample := []

namespace Scene

variable {σ α : Type}

/-- Shows an event to somebody who watches. -/
def emit (watched : Bool) (event : Event) (scene : Scene σ) : Scene σ :=
  if watched then { scene with events := scene.events ++ [event] } else scene

/-- Reports a sample. -/
def report (sample : Metrics.Sample) (scene : Scene σ) : Scene σ :=
  { scene with samples := scene.samples ++ [sample] }

/-- Makes a call; its tokens are shown to somebody who watches. -/
def consult (watched : Bool) (call : Consult σ α) (scene : Scene σ) : Except Fault α × Scene σ :=
  let (reply, outside) := call scene.outside
  let shown := if watched then reply.tokens.map Event.token else []
  (reply.outcome,
    { outside, events := scene.events ++ shown, samples := scene.samples ++ reply.samples })

end Scene

end Errand
