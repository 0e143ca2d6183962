import Errand.Command
import Errand.Gateway.Host
import Errand.Gateway.Wire
import Errand.Service.Ids
import Errand.Service.Memory
import Errand.Settings.Load
import Errand.Terminal
import Std.Time.DateTime.Timestamp

/-!
# The program

Reads the settings, starts the service, and carries out the command: `run` prints the progress of
one task, `serve` answers requests that arrive on the standard input, one after another.
-/

set_option autoImplicit false

namespace Errand.Program

/-- The time. -/
def now : IO Time.Instant := do
  let time ← Std.Time.Timestamp.now
  return ⟨time.val.second.val, time.val.nano.val.toNat⟩

/-- Where a new sequence of ids starts. -/
def randomStart : IO Nat := do
  let bytes ← IO.getRandomBytes 16
  return bytes.foldl (fun n byte => 256 * n + byte.toNat) 0

/-- A file, or why it cannot be read. -/
def readText (path : String) : IO (Except String String) := do
  try
    return .ok (← IO.FS.readFile path)
  catch error =>
    match error with
    | .noFileOrDirectory .. => return .error "No such file or directory (os error 2)"
    | error => return .error (toString error)

/-- The settings: those of the files and the environment, or their own if these are flawed. -/
def settings : IO Settings := do
  let documents ← Settings.files.filterMapM fun file => do
    match ← readText file with
    | .ok text => return some (file, Json.parse text)
    | .error _ => return none
  let given ← Settings.variableNames.filterMapM fun name => do
    return (← IO.getEnv name).map fun value => (name, value)
  let flawed := documents.any fun document => !document.2.isOk
  let loaded := Settings.load (fun file => (documents.lookup file).bind Except.toOption) given
  match loaded with
  | .ok settings => return if flawed then {} else settings
  | .error _ => return {}

/-- Says what is wrong. -/
def complain (message : String) : IO UInt32 := do
  (← IO.getStderr).putStrLn ("Error: " ++ message)
  return 1

/-- Starts the service; the way to language models is closed. -/
def start (settings : Settings) : IO (Except Service.Obstacle Service.Running) := do
  let seed ← match settings.agent.seedPath with
    | some path => readText path
    | none => pure (.ok "")
  return Service.start settings .closed (← now) (Service.Ids.sequence (← randomStart)) fun _ => seed

/-- The lines up to an empty one. -/
partial def readHead (input : IO.FS.Stream) : IO (List String) := do
  let line ← input.getLine
  let bare := Gateway.Wire.bareLine line
  if bare = "" then return [] else return bare :: (← readHead input)

/-- A body. -/
partial def readBody (input : IO.FS.Stream) (length : Nat) : IO ByteArray := do
  if length = 0 then return .empty
  let part ← input.read length.toUSize
  if part.isEmpty then return .empty
  return part ++ (← readBody input (length - part.size))

/-- Answers requests until there are no more. -/
partial def answerAll (input output : IO.FS.Stream) (running : Service.Running) : IO Unit := do
  match Gateway.Wire.request? (← readHead input) with
  | none => return ()
  | some request =>
    let body ← readBody input (Gateway.Wire.bodyLength request)
    let request := { request with body := String.ofList (Text.decode body.toList) }
    let began ← IO.monoMsNow
    let running := { running with memory := { running.memory with now := ← now } }
    let (response, samples, running) := running.answer request
    output.putStr (Gateway.Wire.render (response.getD { status := 500 }))
    output.flush
    answerAll input output (running.observe samples ((← IO.monoMsNow) - began))

/-- Answers requests. -/
def serve : IO UInt32 := do
  let settings ← settings
  match ← start settings with
  | .error obstacle => complain obstacle.message
  | .ok running =>
    if settings.exporter.enabled && !Gateway.canShowAt settings.exporter.path then
      complain "the page of measurements has no place of its own"
    else if Gateway.Host.isAddress settings.server.host then
      answerAll (← IO.getStdin) (← IO.getStdout) running
      return 0
    else complain Gateway.Host.notAddress

/-- Carries out one task. -/
def run (actor : String) (thread : Option String) (task : String) : IO UInt32 := do
  match ← start (← settings) with
  | .error obstacle => complain obstacle.message
  | .ok running =>
    let (outcome, events) := running.carryOut actor thread task
    (← IO.getStdout).putStr (Terminal.transcript events)
    match outcome with
    | .ok _ => return 0
    | .error fault => complain fault.message

/-- Answers a command line that is not carried out. -/
def refuse : Command.Refusal → IO UInt32
  | .help => do
    IO.println Command.usage
    return 0
  | .version => do
    IO.println Gateway.version
    return 0
  | refusal => do
    (← IO.getStderr).putStrLn ("error: " ++ refusal.message ++ "\n\n" ++ Command.usage)
    return 2

end Errand.Program

/-- Carries out the command line. -/
def main (words : List String) : IO UInt32 :=
  match Errand.Command.ofWords words with
  | .ok .serve => Errand.Program.serve
  | .ok (.run actor thread task) => Errand.Program.run actor thread task
  | .error refusal => Errand.Program.refuse refusal
