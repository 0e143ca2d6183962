import Errand.Checkpoint.Store
import Errand.Gateway.Router
import Errand.Messaging.Operations
import Errand.Messaging.Seed
import Errand.Model.Staff
import Errand.Settings.Basic

/-!
# Assembling the service

The service is assembled from settings and its surroundings: a way to the language models, a
repository of messages, a vault for runs, a clock and a source of ids. One language model plans and
speaks, another may make the answers. A service for language models that wants a key is not called
without one.

A vault cannot keep runs for longer than it can count; a service that is told to is impossible,
which is more than a fault: there is no answer that could report it.
-/

set_option autoImplicit false

namespace Errand.Service

/-- What surrounds a service. -/
structure Surroundings (σ : Type) where
  /-- The way to language models. -/
  transport : Model.Transport σ
  /-- Where messages are kept. -/
  repository : Messaging.Repository σ
  /-- Where runs are kept. -/
  vault : Vault σ
  /-- Mints the id of a thread. -/
  freshThread : σ → String × σ
  /-- Tells the time. -/
  now : σ → Time.Instant

/-- Why a service cannot be assembled. -/
inductive Obstacle
  | fault (fault : Fault)
  /-- The limits of the vault are impossible. -/
  | impossible
deriving DecidableEq, Repr

/-- The wording of an obstacle. -/
def Obstacle.message : Obstacle → String
  | .fault cause => cause.message
  | .impossible => "runs cannot be kept for that long"

/-- The provider that settings choose. -/
def provider (settings : Settings.LanguageModel) : Except Fault Model.Provider :=
  match settings.provider with
  | .ollama =>
    .ok (match settings.baseUrl with
      | some url => .ollama url
      | none => .ollama)
  | .openAi =>
    match settings.apiKey.filter (· ≠ "") with
    | none => .error (.configuration "llm.api_key is required for the openai provider")
    | some key =>
      .ok (match settings.baseUrl with
        | some url => .openAi key url
        | none => .openAi key)

/-- The seed that settings choose; an empty one if they choose none. A file that cannot be read says
why. -/
def seed (now : Time.Instant) (readFile : String → Except String String)
    (settings : Settings.Agent) : Except Fault Messaging.Seed :=
  match settings.seedPath with
  | none => .ok ⟨[], [], []⟩
  | some path =>
    match readFile path with
    | .error reason =>
      .error (.configuration ("Failed to read messaging seed '" ++ path ++ "': " ++ reason))
    | .ok text => Messaging.Seed.read now text

/-- The limits of the vault that settings choose, if there is to be one. -/
def limits (settings : Settings.Agent) : Option Checkpoint.Limits :=
  if settings.checkpoints then
    some { secondsToLive := settings.checkpointSeconds, maxEntries := settings.maxCheckpoints }
  else none

variable {σ : Type}

/-- The service that answers through one provider with some operations. -/
def app (settings : Settings) (around : Surroundings σ) (provider : Model.Provider)
    (registry : Registry σ) : Gateway.App σ :=
  let binding (model : String) : Model.Binding σ :=
    { transport := around.transport, provider, model
      temperature := settings.languageModel.temperature }
  let speaker := binding settings.languageModel.model
  { team :=
      { planner := Model.planner speaker registry.catalog
        oracle := Model.oracle speaker
        solver := Model.solver (binding settings.languageModel.solver)
        registry
        vault := (limits settings.agent).map fun _ => around.vault
        solverInput := settings.agent.solverInput }
    recorder :=
      if settings.agent.recordExchanges then
        some { repository := around.repository, assistant := settings.agent.assistant }
      else none
    smartReplies :=
      some { repository := around.repository, suggest := Model.suggest speaker
             window := settings.agent.replyWindowSeconds * 1000000000, now := around.now }
    freshThread := around.freshThread }

/-- Assembles a service, with the seed that its messages begin with. -/
def assemble (settings : Settings) (around : Surroundings σ) (now : Time.Instant)
    (readFile : String → Except String String) :
    Except Obstacle (Gateway.App σ × Messaging.Seed) := do
  let provider ← (provider settings.languageModel).mapError .fault
  let seed ← (seed now readFile settings.agent).mapError .fault
  let registry ← (({} : Registry σ).registerAll
    (Messaging.operations around.repository settings.agent.assistant)).mapError .fault
  if (limits settings.agent).all (·.feasible) then
    return (app settings around provider registry, seed)
  else throw .impossible

end Errand.Service
