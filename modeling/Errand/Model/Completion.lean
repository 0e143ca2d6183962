import Errand.Json.Decode

/-!
# Completions

A language model is asked to continue a conversation: a model, the turns so far, a sampling
temperature. It answers with text, the reason why it stopped, and what it used; or, while the text
is being made, with pieces of it and a reason at the end.
-/

set_option autoImplicit false

namespace Errand.Model

open Json (Decoder Fields)

/-- Who speaks in a turn. -/
inductive Role
  | system
  | user
  | assistant
deriving DecidableEq, Repr

/-- The name of a role. -/
def Role.name : Role → String
  | .system => "system"
  | .user => "user"
  | .assistant => "assistant"

/-- All roles, by name. -/
def Role.all : List (String × Role) :=
  [Role.system, .user, .assistant].map fun role => (role.name, role)

/-- A turn of a conversation with a model. -/
structure Turn where
  /-- Who speaks. -/
  role : Role
  /-- What is said. -/
  content : String
deriving DecidableEq, Repr

/-- A question to a model. -/
structure Request where
  /-- The name of the model. -/
  model : String
  /-- The turns so far. -/
  messages : List Turn
  /-- The sampling temperature. -/
  temperature : Number.Single := .finite ⟨false, 0, 0⟩
  /-- Whether the answer is wanted piece by piece. -/
  stream : Bool := false
deriving DecidableEq, Repr

namespace Request

/-- A single turn of a user. -/
def prompt (model text : String) : Request :=
  { model, messages := [⟨.user, text⟩] }

/-- The same question after an instruction. -/
def withSystem (request : Request) (text : String) : Request :=
  { request with messages := ⟨.system, text⟩ :: request.messages }

/-- The text of the last turn of a user. -/
def userText (request : Request) : String :=
  match request.messages.reverse.find? (·.role = .user) with
  | some turn => turn.content
  | none => ""

end Request

/-- Why a model stopped. -/
inductive StopReason
  | complete
  | maxTokens
  | filtered
deriving DecidableEq, Repr

/-- The name of a reason. -/
def StopReason.name : StopReason → String
  | .complete => "complete"
  | .maxTokens => "max_tokens"
  | .filtered => "filtered"

/-- The reason that a service reports; one that it does not name apart is completion. -/
def StopReason.ofReport (report : String) : StopReason :=
  if report = "length" then .maxTokens
  else if report = "content_filter" then .filtered
  else .complete

/-- What an answer used, in tokens. -/
structure Usage where
  /-- Tokens of the question. -/
  prompt : Nat
  /-- Tokens of the answer. -/
  completion : Nat
deriving DecidableEq, Repr

/-- All tokens, counted in 32 bits. -/
def Usage.total (usage : Usage) : Nat :=
  (usage.prompt + usage.completion) % Nat.pow 2 32

/-- A whole answer. -/
structure Completion where
  /-- The model that answered. -/
  model : String
  /-- The text. -/
  text : String
  /-- Why it stopped, if that is known. -/
  stop : Option StopReason := none
  /-- What it used, if that is known. -/
  usage : Option Usage := none
deriving DecidableEq, Repr

/-- A part of an answer that is made piece by piece. -/
inductive Piece
  /-- Some more text. -/
  | delta (text : String)
  /-- The end. -/
  | finished (reason : StopReason)
deriving DecidableEq, Repr

/-! ### As JSON -/

/-- The shape of a turn. -/
def Turn.decoder : Decoder Turn :=
  (Fields.done Turn.mk
    |>.and (.required "role" (Json.Decode.variant Role.all))
    |>.and (.required "content" Json.Decode.string)).decoder "struct PromptMessage"

/-- A turn as a value. -/
def Turn.toJson (turn : Turn) : Json :=
  .obj [("role", .str turn.role.name), ("content", .str turn.content)]

/-- The shape of a question. -/
def Request.decoder : Decoder Request :=
  (Fields.done Request.mk
    |>.and (.required "model" Json.Decode.string)
    |>.and (.required "messages" (Json.Decode.list Turn.decoder))
    |>.and (.required "temperature" Json.Decode.f32)
    |>.and (.withDefault "stream" Json.Decode.bool false)).decoder "struct CompletionRequest"

/-- A question as a value. -/
def Request.toJson (request : Request) : Json :=
  .obj [("model", .str request.model), ("messages", .arr (request.messages.map Turn.toJson)),
    ("temperature", .single request.temperature), ("stream", .bool request.stream)]

/-- The shape of what was used. -/
def Usage.decoder : Decoder Usage :=
  (Fields.done Usage.mk
    |>.and (.required "prompt" Json.Decode.u32)
    |>.and (.required "completion" Json.Decode.u32)).decoder "struct TokenUsage"

/-- What was used as a value. -/
def Usage.toJson (usage : Usage) : Json :=
  .obj [("prompt", .nat usage.prompt), ("completion", .nat usage.completion)]

/-- An answer as a value. -/
def Completion.toJson (completion : Completion) : Json :=
  .obj [("model", .str completion.model), ("text", .str completion.text),
    ("stop", .optStr (completion.stop.map StopReason.name)),
    ("usage", (completion.usage.map Usage.toJson).getD .null)]

end Errand.Model
