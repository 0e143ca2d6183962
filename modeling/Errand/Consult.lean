import Errand.Fault
import Errand.Metrics.Sample

/-!
# Consulting collaborators

The agent works with others: a planner, operations, stores, a language model. None of them is known
here. What a collaborator does is a function of the state `σ` of everything outside the agent, which
it may change: `Consult σ α` is one call, `Reply α` its answer. Beside its outcome, an answer holds
the tokens of text that arrived while the collaborator was speaking and the samples that it
reported.
-/

set_option autoImplicit false

namespace Errand

/-- The answer of a collaborator. -/
structure Reply (α : Type) where
  /-- What it answered, or why it could not. -/
  outcome : Except Fault α
  /-- The tokens of text that it sent before it answered. -/
  tokens : List String := []
  /-- What it reported about its work. -/
  samples : List Metrics.Sample := []

/-- A call of a collaborator, given the state of everything outside. -/
abbrev Consult (σ α : Type) := σ → Reply α × σ

namespace Consult

variable {σ α β : Type}

/-- A call that answers at once. -/
def answer (outcome : Except Fault α) : Consult σ α :=
  fun outside => ({ outcome }, outside)

/-- A call that succeeds at once. -/
def succeed (a : α) : Consult σ α :=
  answer (.ok a)

/-- A call that fails at once. -/
def fail (fault : Fault) : Consult σ α :=
  answer (.error fault)

/-- One call and, if it succeeds, another. -/
def andThen (first : Consult σ α) (second : α → Consult σ β) : Consult σ β := fun outside =>
  let (reply, outside) := first outside
  match reply.outcome with
  | .error fault => ({ reply with outcome := .error fault }, outside)
  | .ok a =>
    let (next, outside) := second a outside
    ({ outcome := next.outcome, tokens := reply.tokens ++ next.tokens,
       samples := reply.samples ++ next.samples }, outside)

instance : Monad (Consult σ) where
  pure := succeed
  bind := andThen

/-- One call, whatever comes of it, and then another that knows its outcome. -/
def attempt (call : Consult σ α) : Consult σ (Except Fault α) := fun outside =>
  let (reply, outside) := call outside
  ({ reply with outcome := .ok reply.outcome }, outside)

/-- Reports a sample. -/
def report (sample : Metrics.Sample) : Consult σ Unit := fun outside =>
  ({ outcome := .ok (), samples := [sample] }, outside)

/-- Sends a token. -/
def say (token : String) : Consult σ Unit := fun outside =>
  ({ outcome := .ok (), tokens := [token] }, outside)

/-- Looks up the state of a collaborator and changes it. -/
def modify (change : σ → Except Fault α × σ) : Consult σ α := fun outside =>
  let (outcome, outside) := change outside
  ({ outcome }, outside)

end Consult

end Errand
