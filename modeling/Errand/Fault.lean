/-!
# Faults of collaborators

A fault is what a collaborator of the agent answers when it cannot do what it was asked: a store, a
language model, an operation. The causes are told apart because callers react to them differently.
-/

set_option autoImplicit false

namespace Errand

/-- Why a collaborator failed. -/
inductive Fault
  | notFound (message : String)
  /-- Parameters are missing or malformed. -/
  | validation (message : String)
  | permissionDenied (message : String)
  /-- A language model or the way to it failed. -/
  | provider (name message : String)
  | configuration (message : String)
  /-- Something is there already. -/
  | conflict (message : String)
  | internal (message : String)
  /-- A store of messages or checkpoints failed. -/
  | storage (message : String)
deriving DecidableEq, Repr

/-- The wording of a fault. -/
def Fault.message : Fault → String
  | .notFound message => "Not found: " ++ message
  | .validation message => "Validation error: " ++ message
  | .permissionDenied message => "Permission denied: " ++ message
  | .provider name message => "Provider error: " ++ name ++ " - " ++ message
  | .configuration message => "Configuration error: " ++ message
  | .conflict message => "Conflict: " ++ message
  | .internal message => "Internal error: " ++ message
  | .storage message => "Storage error: " ++ message

end Errand
