import Errand.Gateway.App
import Errand.Gateway.Exchange

/-!
# Health

The service is healthy while it runs. It is ready when it has operations and its vault, if it has
one, answers.
-/

set_option autoImplicit false

namespace Errand.Gateway

variable {σ : Type}

/-- What was found of one part. -/
structure Check where
  /-- The part. -/
  name : String
  /-- Whether it is as it should be. -/
  healthy : Bool
  /-- What there is to say. -/
  message : Option String
deriving DecidableEq, Repr

/-- The word for a state of health. -/
def healthWord (healthy : Bool) : String :=
  if healthy then "healthy" else "unhealthy"

/-- What was found, as a value. -/
def Check.toJson (check : Check) : Json :=
  .obj ([("name", .str check.name), ("status", .str (healthWord check.healthy))] ++
    (check.message.map fun message => ("message", Json.str message)).toList)

/-- Says that the service runs. -/
def health : Response :=
  .ofJson 200 (.obj [("status", .str (healthWord true)), ("version", .str version)])

/-- Looks whether there are operations. -/
def checkOperations (app : App σ) : Check :=
  if app.team.registry.size = 0 then ⟨"operations", false, some "No operations registered"⟩
  else ⟨"operations", true, some (toString app.team.registry.size ++ " registered")⟩

/-- The thread for which the vault is asked. -/
def readinessThread : String := "__readiness_check__"

/-- Looks whether the vault answers. -/
def checkVault (app : App σ) (scene : Scene σ) : Check × Scene σ :=
  match app.team.vault with
  | none => (⟨"checkpoints", true, some "disabled"⟩, scene)
  | some vault =>
    match scene.consult false (vault.load readinessThread) with
    | (.ok _, scene) => (⟨"checkpoints", true, none⟩, scene)
    | (.error fault, scene) => (⟨"checkpoints", false, some fault.message⟩, scene)

/-- Says whether the service is ready. -/
def ready (app : App σ) (scene : Scene σ) : Response × Scene σ :=
  let (vault, scene) := checkVault app scene
  let checks := [checkOperations app, vault]
  let healthy := checks.all (·.healthy)
  (.ofJson (if healthy then 200 else 503) (.obj [("status", .str (healthWord healthy)),
    ("version", .str version), ("checks", .arr (checks.map Check.toJson)),
    ("latency_ms", .nat (app.elapsed scene.outside))]), scene)

end Errand.Gateway
