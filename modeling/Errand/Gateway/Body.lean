import Errand.Gateway.Exchange
import Errand.Web.MediaType
import Errand.Json.Decode
import Errand.Text.Blank

/-!
# The bodies of requests

The shapes of the bodies that clients send. A body has to be declared as JSON. A fault of its shape
is reported with the place of the value it belongs to, unless that is the body as a whole.
-/

set_option autoImplicit false

namespace Errand.Gateway

open Json (Decoder Fields)

/-- A request to run a task. -/
structure RunRequest where
  /-- The task. -/
  task : String
  /-- The actor. -/
  actor : String
  /-- The thread under which progress is kept; a fresh one if there is none. -/
  thread : Option String
  /-- Whether the client follows the progress. -/
  stream : Bool
deriving DecidableEq, Repr

/-- A request to go on with a run. -/
structure ResumeRequest where
  /-- The thread. -/
  thread : String
  /-- Whether the client follows the progress. -/
  stream : Bool
deriving DecidableEq, Repr

/-- What is wrong with a request to run a task. -/
def RunRequest.problem? (request : RunRequest) : Option String :=
  if Text.isAllBlank request.task then some "task cannot be empty"
  else if Text.isAllBlank request.actor then some "actorId cannot be empty"
  else if request.thread.any Text.isAllBlank then some "threadId cannot be empty"
  else none

/-! ### Shapes that know where they are -/

/-- Marks the faults of a value that stands under a name or at an index. -/
def located {α : Type} (name : String) (index : Nat) (decoder : Decoder α) (inArray : Bool) :
    Decoder α := fun place source =>
  let mark := if inArray then "[" ++ toString index ++ "]" else name
  (decoder place source).mapError fun error =>
    match error with
    | .shape error => .shape (.custom (mark ++ ": " ++ error.message))
    | .flaw flaw => .flaw flaw

/-- A shape whose faults are located; how its fields are marked depends on whether it is given as an
array. -/
def locating {α : Type} (decoder : (inArray : Bool) → Decoder α) : Decoder α :=
  fun place source =>
    match source with
    | .arr .. => decoder true place source
    | _ => decoder false place source

/-- The shape of a request to run a task. -/
def RunRequest.decoder : Decoder RunRequest :=
  locating fun inArray =>
    (Fields.done RunRequest.mk
      |>.and (.required "task" (located "task" 0 Json.Decode.string inArray))
      |>.and (.required "actorId" (located "actorId" 1 Json.Decode.string inArray))
      |>.and (.withDefault "threadId"
        (located "threadId" 2 (Json.Decode.option Json.Decode.string) inArray) none)
      |>.and (.withDefault "stream" (located "stream" 3 Json.Decode.bool inArray) true)).decoder
        "struct RunRequest"

/-- The shape of a request to go on with a run. -/
def ResumeRequest.decoder : Decoder ResumeRequest :=
  locating fun inArray =>
    (Fields.done ResumeRequest.mk
      |>.and (.required "threadId" (located "threadId" 0 Json.Decode.string inArray))
      |>.and (.withDefault "stream" (located "stream" 1 Json.Decode.bool inArray) true)).decoder
        "struct ResumeRequest"

/-- The shape of a request for replies: the id of a conversation. -/
def smartRepliesDecoder : Decoder String :=
  locating fun inArray =>
    (Fields.done id
      |>.and (.required "conversationId"
        (located "conversationId" 0 Json.Decode.string inArray))).decoder
          "struct SmartRepliesRequest"

/-! ### Reading -/

/-- The body of a request in a known shape. The message of a refusal says what is wrong and in which
field, but not at which line and column of the text. -/
def readBody {α : Type} (decoder : Decoder α) (request : Request) : Except Refusal α :=
  let refuse (refusal : Refusal) : Except Refusal α :=
    .error (refusal.withCode "json_parse_error")
  if (request.header? "content-type").any Web.isJsonType then
    match Json.decodeText decoder request.body.toList with
    | .ok a => .ok a
    | .error (.flaw _) =>
      refuse (.badRequest "Invalid JSON syntax: Failed to parse the request body as JSON")
    | .error (.shape error) =>
      refuse (.unprocessable ("Invalid JSON data: Failed to deserialize the JSON body into the " ++
        "target type: " ++ error.message))
  else
    refuse { status := 415, kind := .invalidRequest
             message := "Missing Content-Type header. Expected 'application/json'." }

end Errand.Gateway
