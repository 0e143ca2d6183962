import Errand.Model.Completion
import Errand.Text.Blank

/-!
# The chat protocol

What is sent to a chat service and what comes back, as JSON. A whole answer holds choices, of which
the first counts. A streamed answer comes as chunks, each with a delta of the first choice's text, a
reason for its end, or both. The mark `[DONE]` closes a stream. A chunk of another shape is passed
over.
-/

set_option autoImplicit false

namespace Errand.Model.Chat

open Json (Decoder Fields)

/-- What is sent to the service. -/
def body (request : Request) (stream : Bool) : Json :=
  { request with stream }.toJson

/-! ### Whole answers -/

/-- A choice of an answer: its text and the reason for its end. -/
structure Choice where
  /-- The text. -/
  content : Option String
  /-- The reason for its end. -/
  finish : Option String
deriving DecidableEq, Repr

/-- An answer. -/
structure Answer where
  /-- The model. -/
  model : String
  /-- The choices. -/
  choices : List Choice
  /-- What it used. -/
  usage : Option Usage
deriving DecidableEq, Repr

/-- The shape of the message of a choice. -/
def messageDecoder : Decoder (Option String) :=
  (Fields.done id |>.and (.optional "content" Json.Decode.string)).decoder "struct ReplyMessage"

/-- The shape of a choice. -/
def Choice.decoder : Decoder Choice :=
  (Fields.done Choice.mk
    |>.and (.required "message" messageDecoder)
    |>.and (.optional "finish_reason" Json.Decode.string)).decoder "struct ReplyChoice"

/-- The shape of what was used. -/
def usageDecoder : Decoder Usage :=
  (Fields.done Usage.mk
    |>.and (.required "prompt_tokens" Json.Decode.u32)
    |>.and (.required "completion_tokens" Json.Decode.u32)).decoder "struct ReplyUsage"

/-- The shape of an answer. -/
def Answer.decoder : Decoder Answer :=
  (Fields.done Answer.mk
    |>.and (.required "model" Json.Decode.string)
    |>.and (.required "choices" (Json.Decode.list Choice.decoder))
    |>.and (.optional "usage" usageDecoder)).decoder "struct ChatReply"

/-- Why a value is no answer. -/
inductive AnswerError
  | shape (error : Json.ShapeError)
  | noChoices
deriving DecidableEq, Repr

/-- The wording of a failure. -/
def AnswerError.message : AnswerError → String
  | .shape error => "Failed to parse response: " ++ error.message
  | .noChoices => "No choices in response"

/-- The completion that an answer stands for. -/
def readAnswer (value : Json) : Except AnswerError Completion :=
  match Json.decodeValue Answer.decoder value with
  | .error error => .error (.shape error)
  | .ok answer =>
    match answer.choices with
    | [] => .error .noChoices
    | choice :: _ =>
      .ok { model := answer.model, text := choice.content.getD ""
            stop := choice.finish.map .ofReport, usage := answer.usage }

/-! ### Chunks -/

/-- The shape of a delta. -/
def deltaDecoder : Decoder (Option String) :=
  (Fields.done id |>.and (.optional "content" Json.Decode.string)).decoder "struct ChunkDelta"

/-- The shape of a choice of a chunk. -/
def chunkChoiceDecoder : Decoder Choice :=
  (Fields.done Choice.mk
    |>.and (.required "delta" deltaDecoder)
    |>.and (.optional "finish_reason" Json.Decode.string)).decoder "struct ChunkChoice"

/-- The shape of a chunk. -/
def chunkDecoder : Decoder (List Choice) :=
  (Fields.done id
    |>.and (.required "choices" (Json.Decode.list chunkChoiceDecoder))).decoder "struct ChatChunk"

/-- The mark that closes a stream. -/
def doneMark : String := "[DONE]"

/-- The pieces that the first choice of a chunk holds. Its end is reported by the closing mark, so
only an end before completion counts. -/
def Choice.pieces (choice : Choice) : List Piece :=
  let deltas := choice.content.toList.map Piece.delta
  match choice.finish.map StopReason.ofReport with
  | none | some .complete => deltas
  | some reason => deltas ++ [.finished reason]

/-- The pieces that a line of data holds. -/
def readData (data : List Char) : List Piece :=
  if Text.trim data = doneMark.toList then [.finished .complete]
  else
    match Json.decodeText chunkDecoder data with
    | .ok (choice :: _) => choice.pieces
    | _ => []

end Errand.Model.Chat
