import Errand.Settings.Basic
import Errand.Settings.Layer
import Errand.Text.Quoted

/-!
# Loading settings

Settings are loaded from two files and the environment, each laid over the ones before it. People
write them, so values are converted where that makes sense: a text that reads as a number, `yes` and
`off` as truth values, a number where a text is wanted, names in any case.

A value that cannot be converted is reported with its address and the place where it was written; a
value that stands for a whole section, or for one of several names, without them.
-/

set_option autoImplicit false

namespace Errand.Settings

open Number (Single Double)

/-- Why settings cannot be loaded. -/
inductive LoadFault
  /-- A value cannot be converted; with its address as far as it is known. -/
  | unconvertible (origin : Option String) (found expected address : String)
  /-- A value stands where another shape is expected. -/
  | misshapen (found expected : String)
  /-- A name is none of those that a choice has. -/
  | unknownChoice (choice name : String)
  /-- A choice is made by neither a name nor a section of one name. -/
  | noChoice (choice : String)
  /-- A file holds no section. -/
  | noSection (file found : String)
  /-- An address leads before the first item of a list, or too far behind its last. -/
  | noPlace
deriving DecidableEq, Repr

/-- The wording of a fault. -/
def LoadFault.message : LoadFault → String
  | .unconvertible origin found expected address =>
    "invalid type: " ++ found ++ ", expected " ++ expected ++
      (if address = "" then "" else " for key \x60" ++ address ++ "\x60") ++
      (match origin with
        | some origin => " in " ++ origin
        | none => "")
  | .misshapen found expected => "invalid type: " ++ found ++ ", expected " ++ expected
  | .unknownChoice choice name =>
    "enum " ++ choice ++ " does not have variant constructor " ++ name
  | .noChoice choice =>
    "value of enum " ++ choice ++
      " should be represented by either string or table with exactly one key"
  | .noSection file found =>
    "invalid type: " ++ found ++ ", expected a map in " ++ file ++ " in " ++ file
  | .noPlace => "an address leads to no place of a list"

/-- What comes of loading. -/
abbrev Loaded (α : Type) := Except LoadFault α

/-- Puts a step in front of the address of a fault. -/
def LoadFault.within (step : String) (dotted : Bool) : LoadFault → LoadFault
  | .unconvertible origin found expected address =>
    let point := if !dotted || address = "" || address.startsWith "[" then "" else "."
    .unconvertible origin found expected (step ++ point ++ address)
  | fault => fault

namespace Layered

/-- Where a value was written. -/
def origin : Layered → Option String
  | .scalar origin _ | .list origin _ | .table origin _ => origin

/-- A number with a point, as a message about a shape names it; what is not finite has none. -/
def pointed : Double → String
  | .finite x => (Number.Layout.mk none none true).render .double x
  | x => x.toText

/-- A value, as a message about a shape names it. -/
def shapeText : Layered → String
  | .scalar _ .nothing => "unit value"
  | .scalar _ (.flag b) => "boolean \x60" ++ toString b ++ "\x60"
  | .scalar _ (.whole n) => "integer \x60" ++ toString n ++ "\x60"
  | .scalar _ (.real x) => "floating point \x60" ++ pointed x ++ "\x60"
  | .scalar _ (.text s) => "string " ++ Text.quoted s
  | .list _ _ => "sequence"
  | .table _ _ => "map"

/-- A value, as a message about a conversion names it. -/
def valueText : Layered → String
  | .scalar _ (.whole n) => "64-bit integer \x60" ++ toString n ++ "\x60"
  | .scalar _ (.real x) => "floating point \x60" ++ x.toText ++ "\x60"
  | value => value.shapeText

/-- Refuses a value that cannot be converted. -/
def refuse {α : Type} (value : Layered) (expected : String) : Loaded α :=
  .error (.unconvertible value.origin value.valueText expected "")

/-- The truth value that a word in lower case stands for. -/
def truthOf? : String → Option Bool
  | "true" | "on" | "yes" => some true
  | "false" | "off" | "no" => some false
  | _ => none

/-- A value as a truth value; a number counts as true unless it is zero. A refused text is reported
in lower case. -/
def toFlag : Layered → Loaded Bool
  | .scalar _ (.flag b) => .ok b
  | .scalar _ (.whole n) => .ok (n != 0)
  | .scalar _ (.real x) => .ok x.isNonzero
  | .scalar origin (.text s) =>
    let word := lowerName s
    match truthOf? word, word with
    | some b, _ => .ok b
    | none, "1" => .ok true
    | none, "0" => .ok false
    | none, _ => refuse (.scalar origin (.text word)) "a boolean"
  | value => value.refuse "a boolean"

/-- The natural number of 64 bits that a text stands for. -/
def word? (text : String) : Option Nat :=
  match text.toList with
  | '-' :: _ => none
  | chars => ((Double.signed? chars).filter (fun (n : Int) => n < Nat.pow 2 64)).map Int.toNat

/-- A value as a natural number of 64 bits; other numbers are rounded. -/
def toWord : Layered → Loaded Nat
  | .scalar _ (.flag b) => .ok b.toNat
  | .scalar origin (.whole n) =>
    if 0 ≤ n then .ok n.toNat
    else refuse (.scalar origin (.whole n)) "an unsigned 64 bit or less integer"
  | .scalar _ (.real x) => .ok x.toWord
  | .scalar origin (.text s) =>
    match truthOf? (lowerName s), word? s with
    | some b, _ => .ok b.toNat
    | none, some n => .ok n
    | none, none => refuse (.scalar origin (.text s)) "an integer"
  | value => value.refuse "an integer"

/-- A value as a natural number of 16 bits. A number that is too large is reported as it was
converted, without the place where it was written. -/
def toShort (value : Layered) : Loaded Nat := do
  let n ← value.toWord
  if n < Nat.pow 2 16 then return n
  else
    .error (.unconvertible none ("64-bit unsigned integer \x60" ++ toString n ++ "\x60")
      "an unsigned 16 bit integer" "")

/-- A value as a number. -/
def toDouble : Layered → Loaded Double
  | .scalar _ (.flag b) => .ok (.ofInt b.toNat)
  | .scalar _ (.whole n) => .ok (.ofInt n)
  | .scalar _ (.real x) => .ok x
  | .scalar origin (.text s) =>
    match truthOf? (lowerName s), Double.ofText? s.toList with
    | some b, _ => .ok (.ofInt b.toNat)
    | none, some x => .ok x
    | none, none => refuse (.scalar origin (.text s)) "a floating point"
  | value => value.refuse "a floating point"

/-- A value as a number of 32 bits. -/
def toSingle (value : Layered) : Loaded Single :=
  Double.toSingle <$> value.toDouble

/-- A value as a text. -/
def toText : Layered → Loaded String
  | .scalar _ (.text s) => .ok s
  | .scalar _ (.flag b) => .ok (toString b)
  | .scalar _ (.whole n) => .ok (toString n)
  | .scalar _ (.real x) => .ok x.toText
  | value => value.refuse "a string"

/-- Nothing, or a value that is read. -/
def toOption {α : Type} (read : Layered → Loaded α) : Layered → Loaded (Option α)
  | .scalar _ .nothing => .ok none
  | value => some <$> read value

/-- One of several names, in any case: a text, or a section whose one setting has the name. -/
def toChoice {α : Type} (choice : String) (known : List (String × α)) (value : Layered) :
    Loaded α :=
  let named (name : String) : Loaded α :=
    match known.find? fun entry => lowerName entry.1 == lowerName name with
    | some (_, a) => .ok a
    | none => .error (.unknownChoice choice name)
  match value with
  | .scalar _ (.text name) => named name
  | .table _ [(name, _)] => named name
  | _ => .error (.noChoice choice)

/-- The items of a list, each read. -/
def readItems {α : Type} (read : Layered → Loaded α) : Nat → List Layered → Loaded (List α)
  | _, [] => .ok []
  | position, item :: rest => do
    let a ← (read item).mapError (·.within ("[" ++ toString position ++ "]") false)
    return a :: (← readItems read (position + 1) rest)

/-- A list of values. -/
def toList {α : Type} (read : Layered → Loaded α) : Layered → Loaded (List α)
  | .list _ items => readItems read 0 items
  | value => .error (.misshapen value.shapeText "a sequence")

end Layered

/-! ### Sections -/

/-- A section whose settings are found by place and name; each comes with the step of the address
that leads to it, and with whether a point goes before what follows the step. -/
abbrev Section := Nat → String → Option (Layered × String × Bool)

/-- A value as a section: a table is asked by name, a list by place. -/
def Layered.toSection (name : String) : Layered → Loaded Section
  | .table _ fields => .ok fun _ setting =>
    (fields.lookup setting).map fun value => (value, setting, true)
  | .list _ items => .ok fun place _ =>
    items[place]?.map fun value => (value, "[" ++ toString place ++ "]", false)
  | value => .error (.misshapen value.shapeText name)

/-- A setting of a section, or its own value if the section does not have it. -/
def Section.read {α : Type} (sec : Section) (place : Nat) (name : String)
    (read : Layered → Loaded α) (own : α) : Loaded α :=
  match sec place name with
  | none => .ok own
  | some (value, step, dotted) => (read value).mapError (·.within step dotted)

/-- Reads the server's settings. -/
def Server.load (value : Layered) : Loaded Server := do
  let own : Server := {}
  let sec ← value.toSection "struct ServerConfig"
  let host ← sec.read 0 "host" Layered.toText own.host
  let portNumber ← sec.read 1 "port" Layered.toShort own.portNumber
  return { host, portNumber }

/-- Reads the log's settings. -/
def Log.load (value : Layered) : Loaded Log := do
  let own : Log := {}
  let sec ← value.toSection "struct LoggingConfig"
  let level ← sec.read 0 "level" Layered.toText own.level
  let format ← sec.read 1 "format" (Layered.toChoice "LogFormat" LogFormat.all) own.format
  return { level, format }

/-- Reads the settings of language models. -/
def LanguageModel.load (value : Layered) : Loaded LanguageModel := do
  let own : LanguageModel := {}
  let sec ← value.toSection "struct LlmConfig"
  let provider ←
    sec.read 0 "provider" (Layered.toChoice "LlmProviderKind" ProviderKind.all) own.provider
  let baseUrl ← sec.read 1 "base_url" (Layered.toOption Layered.toText) own.baseUrl
  let apiKey ← sec.read 2 "api_key" (Layered.toOption Layered.toText) own.apiKey
  let model ← sec.read 3 "model" Layered.toText own.model
  let solverModel ← sec.read 4 "solver_model" (Layered.toOption Layered.toText) own.solverModel
  let temperature ← sec.read 5 "temperature" Layered.toSingle own.temperature
  let timeoutSeconds ← sec.read 6 "timeout_secs" Layered.toWord own.timeoutSeconds
  return { provider, baseUrl, apiKey, model, solverModel, temperature, timeoutSeconds }

/-- Reads the agent's settings. -/
def Agent.load (value : Layered) : Loaded Agent := do
  let own : Agent := {}
  let sec ← value.toSection "struct AgentConfig"
  let solverInput ←
    sec.read 0 "solver_input" (Layered.toChoice "SolverInput" SolverInput.all) own.solverInput
  let assistant ← sec.read 1 "assistant_id" Layered.toText own.assistant
  let seedPath ← sec.read 2 "seed_path" (Layered.toOption Layered.toText) own.seedPath
  let checkpoints ← sec.read 3 "checkpoints" Layered.toFlag own.checkpoints
  let checkpointSeconds ←
    sec.read 4 "checkpoint_ttl_secs" Layered.toWord own.checkpointSeconds
  let maxCheckpoints ← sec.read 5 "max_checkpoints" Layered.toWord own.maxCheckpoints
  let recordExchanges ← sec.read 6 "record_exchanges" Layered.toFlag own.recordExchanges
  let replyWindowSeconds ←
    sec.read 7 "smart_reply_window_secs" Layered.toWord own.replyWindowSeconds
  return { solverInput, assistant, seedPath, checkpoints, checkpointSeconds, maxCheckpoints
           recordExchanges, replyWindowSeconds }

/-- Reads the settings of measurements. -/
def Exporter.load (value : Layered) : Loaded Exporter := do
  let own : Exporter := {}
  let sec ← value.toSection "struct MetricsConfig"
  let enabled ← sec.read 0 "enabled" Layered.toFlag own.enabled
  let path ← sec.read 1 "path" Layered.toText own.path
  let durationBounds ←
    sec.read 2 "duration_buckets" (Layered.toList Layered.toDouble) own.durationBounds
  return { enabled, path, durationBounds }

/-- Reads the section around the settings of measurements. -/
def loadObservability (value : Layered) : Loaded Exporter := do
  let sec ← value.toSection "struct ObservabilityConfig"
  sec.read 0 "metrics" Exporter.load {}

/-- Reads all settings. -/
def ofLayered (value : Layered) : Loaded Settings := do
  let sec ← value.toSection "struct AppConfig"
  let server ← sec.read 0 "server" Server.load {}
  let log ← sec.read 1 "logging" Log.load {}
  let languageModel ← sec.read 2 "llm" LanguageModel.load {}
  let agent ← sec.read 3 "agent" Agent.load {}
  let exporter ← sec.read 4 "observability" loadObservability {}
  return { server, log, languageModel, agent, exporter }

/-! ### Loading -/

/-- The files that settings are loaded from, in order. -/
def files : List String :=
  ["config/default.json", "config/local.json"]

/-- The variables of the environment that settings are loaded from. -/
def variableNames : List String :=
  let named (sec : String) (settings : List String) : List String :=
    settings.map fun setting => "APP__" ++ sec ++ "__" ++ setting
  named "SERVER" ["HOST", "PORT"] ++ named "LOGGING" ["LEVEL", "FORMAT"] ++
    named "LLM" ["PROVIDER", "BASE_URL", "API_KEY", "MODEL", "SOLVER_MODEL", "TEMPERATURE",
      "TIMEOUT_SECS"] ++
    named "AGENT" ["SOLVER_INPUT", "ASSISTANT_ID", "SEED_PATH", "CHECKPOINTS",
      "CHECKPOINT_TTL_SECS", "MAX_CHECKPOINTS", "RECORD_EXCHANGES", "SMART_REPLY_WINDOW_SECS"] ++
    named "OBSERVABILITY__METRICS" ["ENABLED", "PATH"]

/-- The layer that a file holds. -/
def layerOfFile (file : String) (document : Json) : Loaded (List (String × Layered)) :=
  match Layered.ofJson file document with
  | .table _ fields => .ok fields
  | value => .error (.noSection file value.valueText)

/-- Lays a layer over what is there. -/
def lay (below : Layered) (layer : List (String × Layered)) : Loaded Layered :=
  match below.place layer with
  | some value => .ok value
  | none => .error .noPlace

/-- Loads settings from the files, of which some may be missing, and the environment. -/
def load (document? : String → Option Json) (environment : List (String × String)) :
    Loaded Settings := do
  let below ← files.foldlM
    (fun below file =>
      match document? file with
      | none => .ok below
      | some document => do
        let layer ← layerOfFile file document
        lay below layer)
    Layered.emptyTable
  let layer := environment.filterMap fun (name, value) => Layered.ofVariable name value
  ofLayered (← lay below layer)

end Errand.Settings
