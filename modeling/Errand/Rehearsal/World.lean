import Errand.Checkpoint.Store
import Errand.Messaging.Repository
import Errand.Model.Provider
import Errand.Rehearsal.Script

/-!
# A rehearsed world

The state of collaborators that follow scripts: what each of them will do, what is kept in their
stores, which of their calls fail from now on, and the log of the calls that were made.
-/

set_option autoImplicit false

namespace Errand.Rehearsal

/-- What a planner, a solver or an oracle does. -/
inductive Speech
  | say (text : String)
  | fail (fault : Fault)
deriving Repr

/-- What an operation does. -/
inductive Deed
  /-- Gives a value. -/
  | give (value : Json)
  | fail (fault : Fault)
  /-- Gives the id of the actor. -/
  | nameActor
  /-- Gives the parameters back. -/
  | echo
deriving Repr

/-- What a service of language models answers. -/
inductive Answer
  /-- A value; a stream has no text then. -/
  | value (value : Json)
  /-- A text, as a whole or word by word. -/
  | text (text : String)
  /-- The chunks of a stream; a value has no text then. -/
  | chunks (chunks : List Model.Chunk)
  | fail (fault : Fault)

/-- A call that was made. -/
inductive Call
  | operation (name : String) (parameters : Json) (actor : String)
  | planner (task actor : String)
  | oracle (prompt : String)
  | solver (request : SolverRequest)
  | model (stream : Bool) (call : Model.Call)
  /-- A call of the vault, with the stage and the cursor of a run that is to be kept. -/
  | vault (method thread : String) (kept : Option (Stage × Nat))

/-- Collaborators that follow scripts. -/
structure World where
  /-- What the planner does. -/
  planner : Script Speech := {}
  /-- What the oracle does. -/
  oracle : Script Speech := {}
  /-- What the solver does. -/
  solver : Script Speech := {}
  /-- What the operations do, by name. -/
  deeds : List (String × Script Deed) := []
  /-- What the service of language models answers. -/
  answers : Script Answer := {}
  /-- Users, conversations and messages. -/
  messages : Messaging.Store := {}
  /-- How many ids of conversations and messages have been minted. -/
  minted : Nat := 0
  /-- How many threads have been opened. -/
  threads : Nat := 0
  /-- Runs that are kept. -/
  checkpoints : Checkpoint.Store := {}
  /-- The calls that fail from now on, and how. -/
  failing : List (String × Fault) := []
  /-- The calls made so far. -/
  calls : List Call := []

namespace World

/-- Logs a call. -/
def log (call : Call) (world : World) : World :=
  { world with calls := world.calls ++ [call] }

/-- Lets a call fail from now on, or work again. -/
def setFailing (call : String) (fault : Option Fault) (world : World) : World :=
  { world with
    failing := match fault with
      | some fault => Entries.set call fault world.failing
      | none => world.failing.filter (·.1 != call) }

/-- The time, which stands still: the start of the year 2030. -/
def now : Time.Instant :=
  .ofDate ⟨2030, 1, 1⟩

/-- Mints an id: `gen-1`, `gen-2` and so on. -/
def mint (world : World) : String × World :=
  ("gen-" ++ toString (world.minted + 1), { world with minted := world.minted + 1 })

/-- Where the messages are. -/
def household : Messaging.Household World where
  store := (·.messages)
  setStore messages world := { world with messages }
  mint := mint
  now _ := now

end World

end Errand.Rehearsal
