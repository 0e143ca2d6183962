import Errand.Messaging.Seed
import Errand.Rehearsal.Cast

/-!
# Reading the sheet of a rehearsal

A rehearsal is written down as JSON: who does what, and what is to happen. What the sheet leaves out
is empty, zero, false or null, as fits.
-/

set_option autoImplicit false

namespace Errand.Rehearsal.Sheet

/-! ### Parts of a sheet -/

/-- A part of the sheet. -/
def part (sheet : Json) (key : String) : Json :=
  (sheet.field? key).getD .null

/-- A text, if it is there. -/
def text? (sheet : Json) (key : String) : Option String :=
  (sheet.field? key).bind Json.str?

/-- A text. -/
def text (sheet : Json) (key : String) : String :=
  (text? sheet key).getD ""

/-- A list. -/
def items (sheet : Json) (key : String) : List Json :=
  ((sheet.field? key).bind Json.items?).getD []

/-- A list of texts. -/
def texts (sheet : Json) (key : String) : List String :=
  (items sheet key).filterMap Json.str?

/-- Whether something is so. -/
def flag (sheet : Json) (key : String) : Bool :=
  match sheet.field? key with
  | some (.bool b) => b
  | _ => false

/-- A count, as a value. -/
def countOf : Json → Option Nat
  | .num (.int n) => if 0 ≤ n then some n.toNat else none
  | _ => none

/-- A count, if it is there. -/
def count? (sheet : Json) (key : String) : Option Nat :=
  (sheet.field? key).bind countOf

/-- A number of 32 bits, as a value of 64 bits rounded again; zero if it is none. -/
def singleOf (value : Json) : Number.Single :=
  match Json.decodeValue Json.Decode.f64 value with
  | .ok x => .ofDouble x
  | .error _ => .finite ⟨false, 0, 0⟩

/-- Entries that are written as pairs. -/
def pairs (value : Json) : List (String × String) :=
  (value.items?.getD []).filterMap fun pair =>
    match pair with
    | .arr [.str key, .str entry] => some (key, entry)
    | _ => none

/-- A step of a plan. -/
def step (sheet : Json) : Step :=
  { title := text sheet "title", id := text sheet "step_id", operation := text sheet "operation"
    template := text sheet "params_template" }

/-- A choice of what the solver is given. -/
def solverInput (sheet : Json) : SolverInput :=
  if text sheet "solver_input" = "last_plan_step" then .lastPlanStep else .lastInserted

/-! ### The cast -/

/-- A fault. -/
def fault (sheet : Json) : Fault :=
  let message := text sheet "message"
  match text sheet "kind" with
  | "not_found" => .notFound message
  | "validation" => .validation message
  | "permission_denied" => .permissionDenied message
  | "provider" => .provider (text sheet "provider") message
  | "configuration" => .configuration message
  | "conflict" => .conflict message
  | "storage" => .storage message
  | _ => .internal message

/-- What a speaker does once: a text that is said, or a fault. -/
def speech (sheet : Json) : Speech :=
  match sheet with
  | .str text => .say text
  | sheet => .fail (fault (part sheet "fail"))

/-- What a speaker does: a list, or one thing for ever. -/
def speeches (sheet : Json) : Script Speech :=
  match sheet with
  | .null => {}
  | .arr entries => ⟨entries.map speech⟩
  | entry => ⟨[speech entry]⟩

/-- What an operation does once. -/
def deed (sheet : Json) : Deed :=
  match sheet.field? "return", sheet.field? "fail", sheet.field? "actor" with
  | some value, _, _ => .give value
  | none, some sheet, _ => .fail (fault sheet)
  | none, none, some _ => .nameActor
  | none, none, none => .echo

/-- What a planner is told about an operation. -/
def operationInfo (sheet : Json) : Operation.Info :=
  { name := text sheet "name", description := text sheet "description"
    parameters := (sheet.field? "parameters").getD (.obj [("type", .str "object")]) }

/-- The operations of a list. -/
def operations (sheets : List Json) : List (Operation World) :=
  sheets.map fun sheet => operation (operationInfo sheet)

/-- What the operations of a list do. -/
def deeds (sheets : List Json) : List (String × Script Deed) :=
  sheets.map fun sheet => (text sheet "name", ⟨(items sheet "do").map deed⟩)

/-- A chunk of a stream: a text, a list of bytes, or a fault. -/
def chunk (sheet : Json) : Model.Chunk :=
  match sheet with
  | .str text => .ok (Text.encode text.toList)
  | .arr bytes => .ok (bytes.filterMap fun byte => (countOf byte).map UInt8.ofNat)
  | sheet => .error (fault (part sheet "error"))

/-- What a service of language models answers once. -/
def answer (sheet : Json) : Answer :=
  match sheet.field? "error", sheet.field? "json", sheet.field? "chunks" with
  | some sheet, _, _ => .fail (fault sheet)
  | none, some value, _ => .value value
  | none, none, some chunks => .chunks ((chunks.items?.getD []).map chunk)
  | none, none, none => .text (text sheet "text")

/-- What a service of language models answers. -/
def answers (sheet : Json) : Script Answer :=
  ⟨(items sheet "replies").map answer⟩

/-- A provider of language models. -/
def provider (sheet : Json) : Model.Provider :=
  let key := text sheet "api_key"
  if text sheet "kind" = "openai" then
    (text? sheet "base_url").elim (.openAi key) fun url => .openAi key url
  else
    (text? sheet "base_url").elim .ollama fun url => .ollama url

/-! ### Messages -/

/-- What selects messages. -/
def filter (sheet : Json) : Except Json.ShapeError Messaging.Filter := do
  let since ← match part sheet "since" with
    | .null => pure none
    | value => some <$> Json.decodeValue Messaging.instant value
  return { conversation := text? sheet "conversation", sender := text? sheet "sender"
           receiver := text? sheet "receiver", involving := text? sheet "involving"
           excludeReceiver := text? sheet "exclude_receiver"
           contains := text? sheet "contains", since }

/-- A stretch of a list. -/
def page (sheet : Json) : Messaging.Page :=
  { offset := (count? sheet "offset").getD 0, limit := count? sheet "limit" }

/-- What a store of messages begins with: a text, or what would stand in it. -/
def seed (sheet : Json) : Except Fault Messaging.Seed :=
  match sheet with
  | .str text => Messaging.Seed.read World.now text
  | .null => .ok ⟨[], [], []⟩
  | sheet => Messaging.Seed.read World.now sheet.compact

end Errand.Rehearsal.Sheet
