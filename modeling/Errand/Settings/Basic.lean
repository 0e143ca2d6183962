import Errand.Number.Double
import Errand.Run.Synthesis

/-!
# Settings

What can be chosen when the agent is started. Every setting has a value of its own that holds unless
another is chosen.
-/

set_option autoImplicit false

namespace Errand

namespace Settings

open Number (Single Double)

/-- Where requests are answered. -/
structure Server where
  /-- The address of the own machine to listen at. -/
  host : String := "0.0.0.0"
  /-- The number to listen on at that address. -/
  portNumber : Nat := 8080
deriving DecidableEq, Repr

/-- How lines of the log are written. -/
inductive LogFormat
  | pretty
  | json
deriving DecidableEq, Repr

/-- All ways to write the log, by name. -/
def LogFormat.all : List (String × LogFormat) :=
  [("pretty", .pretty), ("json", .json)]

/-- The log. -/
structure Log where
  /-- The least important level that is written. -/
  level : String := "info"
  /-- How it is written. -/
  format : LogFormat := .pretty
deriving DecidableEq, Repr

/-- The kinds of services for language models. -/
inductive ProviderKind
  | ollama
  | openAi
deriving DecidableEq, Repr

/-- All kinds of services, by name. -/
def ProviderKind.all : List (String × ProviderKind) :=
  [("ollama", .ollama), ("openai", .openAi)]

/-- The language models. -/
structure LanguageModel where
  /-- The kind of service. -/
  provider : ProviderKind := .ollama
  /-- Where the service is, if not in the usual place. -/
  baseUrl : Option String := none
  /-- What authorises calls. -/
  apiKey : Option String := none
  /-- The model that plans. -/
  model : String := "gemma2:2b"
  /-- The model that makes answers, if it is another one. -/
  solverModel : Option String := none
  /-- How freely models answer. -/
  temperature : Single := .finite ⟨false, 0, 0⟩
  /-- For how many seconds an answer is waited for. -/
  timeoutSeconds : Nat := 120
deriving DecidableEq, Repr

/-- The model that makes answers. -/
def LanguageModel.solver (settings : LanguageModel) : String :=
  settings.solverModel.getD settings.model

/-- How tasks are carried out. -/
structure Agent where
  /-- Which result an answer is made of. -/
  solverInput : SolverInput := .lastInserted
  /-- The user id of the assistant. -/
  assistant : String := "869edb54-d299-4821-bfd6-8a612f26acc3"
  /-- A file with users, conversations and messages to begin with. -/
  seedPath : Option String := none
  /-- Whether runs are kept until they are done. -/
  checkpoints : Bool := true
  /-- For how many seconds a run is kept. -/
  checkpointSeconds : Nat := 3600
  /-- How many runs are kept. -/
  maxCheckpoints : Nat := 1000
  /-- Whether tasks and answers are recorded as messages. -/
  recordExchanges : Bool := true
  /-- How many seconds of a conversation are looked at to suggest replies. -/
  replyWindowSeconds : Nat := 300
deriving DecidableEq, Repr

/-- Decimal fractions with one or two places, as numbers of 64 bits. -/
def hundredths (n : Nat) : Double :=
  .ofDecimal false n (-2)

/-- What is measured. -/
structure Exporter where
  /-- Whether measurements are kept. -/
  enabled : Bool := true
  /-- Where they can be fetched. -/
  path : String := "/metrics"
  /-- The upper bounds, in seconds, into which durations are sorted. -/
  durationBounds : List Double :=
    [5, 25, 100, 250, 500, 1000, 3000, 6000, 12000, 30000].map hundredths
deriving Repr

end Settings

/-- What can be chosen when the agent is started. -/
structure Settings where
  /-- Where requests are answered. -/
  server : Settings.Server := {}
  /-- The log. -/
  log : Settings.Log := {}
  /-- The language models. -/
  languageModel : Settings.LanguageModel := {}
  /-- How tasks are carried out. -/
  agent : Settings.Agent := {}
  /-- What is measured. -/
  exporter : Settings.Exporter := {}
deriving Repr

end Errand
