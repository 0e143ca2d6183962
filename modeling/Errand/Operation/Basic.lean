import Errand.Consult
import Errand.Json.Decode

/-!
# Operations

An operation is a named capability that a step of a plan can ask for. It comes with a description
and with a schema of its parameters, which a planner reads, and it is invoked with parameters on
behalf of an actor. Most operations decode their parameters into a shape of their own first.
-/

set_option autoImplicit false

namespace Errand

/-- What a planner is told about an operation. -/
structure Operation.Info where
  /-- The name that steps use. -/
  name : String
  /-- What the operation does. -/
  description : String
  /-- The schema of the parameters. -/
  parameters : Json

/-- On whose behalf an operation is invoked. -/
structure Operation.Context where
  /-- The id of the actor. -/
  actor : String
deriving DecidableEq, Repr

/-- A named capability. -/
structure Operation (σ : Type) where
  /-- What a planner is told about it. -/
  info : Operation.Info
  /-- Carries it out. -/
  invoke : Json → Operation.Context → Consult σ Json

namespace Operation

variable {σ α : Type}

/-- The name of an operation. -/
def name (operation : Operation σ) : String :=
  operation.info.name

/-- The parameters of an operation in their own shape. -/
def decodeParameters (operation : String) (decoder : Json.Decoder α) (parameters : Json) :
    Except Fault α :=
  match Json.decodeValue decoder parameters with
  | .ok a => .ok a
  | .error error =>
    .error (.validation ("Invalid parameters for '" ++ operation ++ "': " ++ error.message))

/-- An operation whose parameters have a shape. -/
def ofShape (info : Info) (decoder : Json.Decoder α) (run : α → Context → Consult σ Json) :
    Operation σ where
  info := info
  invoke := fun parameters context =>
    match decodeParameters info.name decoder parameters with
    | .error fault => .fail fault
    | .ok a => run a context

/-- The shape of what a planner is told about an operation. -/
def Info.decoder : Json.Decoder Info :=
  (Json.Fields.done (fun name description parameters => Info.mk name description parameters)
    |>.and (.required "name" Json.Decode.string)
    |>.and (.required "description" Json.Decode.string)
    |>.and (.required "parameters" Json.Decode.any)).decoder "struct OperationInfo"

/-- What a planner is told, as a value. -/
def Info.toJson (info : Info) : Json :=
  .obj [("name", .str info.name), ("description", .str info.description),
    ("parameters", info.parameters)]

/-- The shape of a context. -/
def Context.decoder : Json.Decoder Context :=
  (Json.Fields.done Context.mk
    |>.and (.required "actor_id" Json.Decode.string)).decoder "struct OperationContext"

/-- A context as a value. -/
def Context.toJson (context : Context) : Json :=
  .obj [("actor_id", .str context.actor)]

end Operation

end Errand
