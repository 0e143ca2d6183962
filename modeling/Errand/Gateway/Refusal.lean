import Errand.Json.Basic
import Errand.Json.Writer
import Errand.Run.Fault

/-!
# Refusals

What a client is told when a request is not served: a status, a kind of error, a message, and for a
run that failed also the phase, the step and a code.
-/

set_option autoImplicit false

namespace Errand.Gateway

/-- The kinds of error that clients tell apart. -/
inductive ErrorKind
  | invalidRequest
  | permission
  | notFound
  | server
  | unavailable
deriving DecidableEq, Repr

/-- The name of a kind. -/
def ErrorKind.name : ErrorKind → String
  | .invalidRequest => "invalid_request_error"
  | .permission => "permission_error"
  | .notFound => "not_found_error"
  | .server => "server_error"
  | .unavailable => "service_unavailable_error"

/-- Why a request is not served. -/
structure Refusal where
  /-- The status of the response. -/
  status : Nat
  /-- The kind of error. -/
  kind : ErrorKind
  /-- The message. -/
  message : String
  /-- How far a run had come. -/
  phase : Option Phase := none
  /-- The number of the step that failed. -/
  step : Option Nat := none
  /-- A word for programs. -/
  code : Option String := none
deriving DecidableEq, Repr

namespace Refusal

/-- The request makes no sense. -/
def badRequest (message : String) : Refusal :=
  { status := 400, kind := .invalidRequest, message }

/-- The actor may not do that. -/
def forbidden (message : String) : Refusal :=
  { status := 403, kind := .permission, message }

/-- There is no such thing. -/
def notFound (message : String) : Refusal :=
  { status := 404, kind := .notFound, message }

/-- It is there already, or in use. -/
def conflict (message : String) : Refusal :=
  { status := 409, kind := .invalidRequest, message }

/-- The request makes sense but cannot be carried out. -/
def unprocessable (message : String) : Refusal :=
  { status := 422, kind := .invalidRequest, message }

/-- Something is wrong here. -/
def internal (message : String) : Refusal :=
  { status := 500, kind := .server, message }

/-- Something that is needed does not answer. -/
def unavailable (message : String) : Refusal :=
  { status := 503, kind := .unavailable, message }

/-- The same with a code. -/
def withCode (refusal : Refusal) (code : String) : Refusal :=
  { refusal with code := some code }

/-- The refusal because of a collaborator. -/
def ofFault : Fault → Refusal
  | .notFound message => notFound message
  | .validation message => badRequest message
  | .permissionDenied message => forbidden message
  | .provider name message => unavailable (name ++ ": " ++ message)
  | .configuration message => internal message
  | .conflict message => conflict message
  | .internal message => internal message
  | .storage message => internal message

/-- The refusal because of a run, without phase and step. -/
def ofRunFaultKind (fault : RunFault) : Refusal :=
  match fault with
  | .planning _ => (unavailable fault.message).withCode "planning_failed"
  | .planText _ => (unprocessable fault.message).withCode "invalid_plan"
  | .step _ _ (.failed _ (.permissionDenied _)) =>
    (forbidden fault.message).withCode "step_failed"
  | .step .. => (unprocessable fault.message).withCode "step_failed"
  | .solver _ => (unavailable fault.message).withCode "synthesis_failed"
  | .checkpoint (.conflict _) => (conflict fault.message).withCode "thread_busy"
  | .routing _ | .checkpoint _ => (internal fault.message).withCode "internal_error"

/-- The refusal because of a run. -/
def ofRunFault (fault : RunFault) : Refusal :=
  { ofRunFaultKind fault with phase := some fault.phase, step := fault.failedStep }

/-- A refusal in one line. -/
def toText (refusal : Refusal) : String :=
  refusal.kind.name ++ ": " ++ refusal.message

/-- What a client is told. -/
def detail (refusal : Refusal) : Json :=
  .obj ([("message", .str refusal.message), ("type", .str refusal.kind.name)] ++
    (refusal.phase.map fun phase => ("phase", Json.str phase.name)).toList ++
    (refusal.step.map fun step => ("step", Json.nat step)).toList ++
    (refusal.code.map fun code => ("code", Json.str code)).toList)

/-- What a client is told, as a whole. -/
def toJson (refusal : Refusal) : Json :=
  .obj [("error", refusal.detail)]

end Refusal

end Errand.Gateway
