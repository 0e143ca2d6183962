import Errand.Model.Provider

/-!
# A model for one purpose

A binding fixes the provider, the model and the temperature with which the agent asks. An answer
that comes piece by piece is passed on token by token; empty pieces are left out, and the first
fault ends it. Every question is reported, with its purpose and whether it was answered.
-/

set_option autoImplicit false

namespace Errand.Model

/-- A provider, a model and a temperature. -/
structure Binding (σ : Type) where
  /-- The way to the service. -/
  transport : Transport σ
  /-- The service. -/
  provider : Provider
  /-- The name of the model. -/
  model : String
  /-- The sampling temperature. -/
  temperature : Number.Single := .finite ⟨false, 0, 0⟩

/-- The text of pieces up to the first fault, piece by piece without the empty ones, and the
fault. -/
def gather : List (Except Fault Piece) → List String × Option Fault
  | [] => ([], none)
  | .error fault :: _ => ([], some fault)
  | .ok (.finished _) :: rest => gather rest
  | .ok (.delta text) :: rest =>
    let (tokens, fault) := gather rest
    (if text = "" then tokens else text :: tokens, fault)

namespace Binding

variable {σ α : Type}

/-- The question that a prompt puts. -/
def request (binding : Binding σ) (prompt : String) : Request :=
  { Request.prompt binding.model prompt with temperature := binding.temperature }

/-- Asks, and reports whether there was an answer. -/
def reported (binding : Binding σ) (purpose : String) (ask : Consult σ α) : Consult σ α :=
  fun outside =>
    let (reply, outside) := ask outside
    let labels :=
      Metrics.questionLabels binding.provider.name binding.model purpose reply.outcome.isOk
    ({ reply with samples := reply.samples ++
        [.count "llm_requests_total" labels, .measure "llm_request_duration_seconds" labels] },
      outside)

/-- Asks for a whole answer. -/
def complete (binding : Binding σ) (purpose prompt : String) : Consult σ String :=
  (·.text) <$> binding.reported purpose
    (binding.provider.complete binding.transport (binding.request prompt))

/-- Asks for an answer piece by piece and passes it on as tokens. -/
def converse (binding : Binding σ) (purpose prompt : String) : Consult σ String :=
  binding.reported purpose fun outside =>
    let request := { binding.request prompt with stream := true }
    let (reply, outside) := binding.provider.stream binding.transport request outside
    match reply.outcome with
    | .error fault => ({ reply with outcome := .error fault }, outside)
    | .ok pieces =>
      let (tokens, fault) := gather pieces
      let outcome := match fault with
        | some fault => .error fault
        | none => .ok (String.join tokens)
      ({ outcome, tokens := reply.tokens ++ tokens, samples := reply.samples }, outside)

end Binding

end Errand.Model
