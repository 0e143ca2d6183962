import Errand.Messaging.Replies
import Errand.Model.Binding
import Errand.Operation.Registry
import Errand.Prompt.Texts
import Errand.Run.Synthesis

/-!
# A model at work

The roles that a language model plays for the agent. As a planner it is shown the catalog of
operations; as a solver it speaks token by token; as an oracle it answers the prompt of a step. As a
suggester it is asked for an object with a list of replies, which may stand amid prose, and whatever
goes wrong there are always some replies.
-/

set_option autoImplicit false

namespace Errand.Model

variable {σ : Type}

/-- Has a plan written. -/
def planner (binding : Binding σ) (catalog : List Operation.Info) (task : Task) :
    Consult σ String :=
  binding.complete "planner" (Prompt.planner task.actor catalog task.instruction)

/-- Has an answer made, token by token. -/
def solver (binding : Binding σ) (request : SolverRequest) : Consult σ String :=
  binding.converse "solver" (Prompt.solver request.task request.lastResult)

/-- Has a prompt answered. -/
def oracle (binding : Binding σ) (prompt : String) : Consult σ String :=
  binding.complete "oracle" prompt

/-! ### Suggesting replies -/

/-- The temperature at which replies are suggested. -/
def suggestionTemperature : Number.Single :=
  .ofDecimal 9 (-1)

/-- The replies when there are none. -/
def fallbackReplies : List String :=
  ["Vibe check failed", "Tea's cold now", "You good, fam?"]

/-- The part of a text from its first opening brace to its last closing brace, or the whole text if
they do not stand in this order. -/
def bracedPart (text : List Char) : List Char :=
  let start := text.takeWhile (· != '\x7b')
  let rest := text.drop start.length
  let part := (rest.reverse.dropWhile (· != '\x7d')).reverse
  if part.isEmpty then text else part

/-- The shape of suggested replies. -/
def repliesDecoder : Json.Decoder (List String) :=
  (Json.Fields.done id
    |>.and (.required "replies" (Json.Decode.list Json.Decode.string))).decoder
      "struct RepliesBody"

/-- The replies that a text suggests; none if it suggests nothing. -/
def readReplies (text : String) : Option (List String) :=
  match Json.decodeText repliesDecoder (bracedPart text.toList) with
  | .ok (reply :: replies) => some (reply :: replies)
  | _ => none

/-- Has replies suggested to a conversation. -/
def suggest (binding : Binding σ) (lines : List Messaging.Line) : Consult σ (List String) := do
  let binding := { binding with temperature := suggestionTemperature }
  let conversation := (Json.arr (lines.map Messaging.Line.toJson)).pretty
  match ← (binding.complete "smart_replies" (Prompt.smartReply conversation)).attempt with
  | .error _ => return fallbackReplies
  | .ok text => return (readReplies text).getD fallbackReplies

end Errand.Model
