import Errand.Metrics.Page
import Errand.Service.Assembly

/-!
# A service that keeps everything in memory

Messages and runs are kept in memory. The time and new ids come from outside: the clock is set
before a request is served, and ids are taken one after another from a sequence in which none comes
twice.
-/

set_option autoImplicit false

namespace Errand.Service

/-- What a service keeps in memory. -/
structure Memory where
  /-- Users, conversations and messages. -/
  messages : Messaging.Store := {}
  /-- Runs. -/
  checkpoints : Checkpoint.Store := {}
  /-- The time. -/
  now : Time.Instant
  /-- The ids to be minted. -/
  ids : Nat → String
  /-- How many ids have been minted. -/
  minted : Nat := 0

namespace Memory

/-- Mints an id. -/
def mint (memory : Memory) : String × Memory :=
  (memory.ids memory.minted, { memory with minted := memory.minted + 1 })

/-- Where the messages are. -/
def household : Messaging.Household Memory where
  store := (·.messages)
  setStore messages memory := { memory with messages }
  mint := mint
  now := (·.now)

/-- A call of the store of runs. -/
def inCheckpoints {α : Type} (call : Consult Checkpoint.Store α) : Consult Memory α := fun memory =>
  let (reply, checkpoints) := call memory.checkpoints
  (reply, { memory with checkpoints })

/-- The vault of runs. -/
def vault : Vault Memory :=
  let base := Checkpoint.Store.vault
  { save := fun thread run => inCheckpoints (base.save thread run)
    load := fun thread => inCheckpoints (base.load thread)
    claim := fun thread => inCheckpoints (base.claim thread)
    release := fun thread => inCheckpoints (base.release thread)
    delete := fun thread => inCheckpoints (base.delete thread) }

/-- The surroundings of a service whose memory this is. -/
def surroundings (transport : Model.Transport Memory) : Surroundings Memory where
  transport := transport
  repository := .ofStore household
  vault := vault
  freshThread := mint
  now := (·.now)

end Memory

/-- A service and its memory. -/
structure Running where
  /-- The service. -/
  app : Gateway.App Memory
  /-- Its memory. -/
  memory : Memory
  /-- What is measured. -/
  exporter : Settings.Exporter
  /-- What has been measured so far. -/
  observations : List Metrics.Observation := []

/-- Starts a service: it is assembled, and its memory begins with the seed. -/
def start (settings : Settings) (transport : Model.Transport Memory) (now : Time.Instant)
    (ids : Nat → String) (readFile : String → Except String String) :
    Except Obstacle Running := do
  let (app, seed) ← assemble settings (Memory.surroundings transport) now readFile
  let checkpoints : Checkpoint.Store := { limits := (limits settings.agent).getD {} }
  return { app, memory := { messages := seed.store, checkpoints, now, ids }
           exporter := settings.exporter }

namespace Running

/-- The page of measurements. -/
def page (running : Running) : String :=
  Metrics.page Gateway.version running.exporter.durationBounds running.observations

/-- Whether a request asks for the page of measurements. -/
def asksForPage (running : Running) (request : Gateway.Request) : Bool :=
  running.exporter.enabled && request.method = "GET" && request.path = running.exporter.path

/-- Serves a request, with what was reported meanwhile; there is no response if serving it is
impossible. -/
def serve (running : Running) (request : Gateway.Request) :
    Option Gateway.Response × List Metrics.Sample × Running :=
  let (id, memory) := running.memory.mint
  let (response, scene) := Gateway.handle running.app id request { outside := memory }
  (response, scene.samples, { running with memory := scene.outside })

/-- Answers a request: with the page of measurements, or by serving it. -/
def answer (running : Running) (request : Gateway.Request) :
    Option Gateway.Response × List Metrics.Sample × Running :=
  if running.asksForPage request then
    (some { status := 200, contentType := some "text/plain; charset=utf-8", body := running.page },
      [], running)
  else running.serve request

/-- Keeps what was reported while a request was served, which took some milliseconds. -/
def observe (running : Running) (samples : List Metrics.Sample) (milliseconds : Nat) : Running :=
  let seconds := Metrics.secondsOf milliseconds
  { running with
    observations := running.observations ++ samples.map fun sample => ⟨sample, seconds⟩ }

/-- Carries out one task, and says how it ended, with what was shown of it. -/
def carryOut (running : Running) (actor : String) (thread : Option String) (task : String) :
    Except RunFault Run × List Event :=
  let (thread, memory) := match thread with
    | some thread => (thread, running.memory)
    | none => running.memory.mint
  let (outcome, scene) := Run.perform running.app.team thread
    { instruction := task, actor, watched := true } { outside := memory }
  (outcome, scene.events)

end Running

end Errand.Service
