import Errand.Rehearsal.World

/-!
# The cast of a rehearsal

Collaborators that act out their scripts in a rehearsed world. Every call of a planner, solver,
oracle, operation, model or vault is logged before anything else happens. A call that is made to
fail does nothing more.
-/

set_option autoImplicit false

namespace Errand.Rehearsal

variable {α : Type}

/-- Logs a call. -/
def logged (call : Call) : Consult World Unit :=
  .modify fun world => (.ok (), world.log call)

/-- A call that fails if it is made to fail. -/
def guarded (name : String) (call : Consult World α) : Consult World α := fun world =>
  match world.failing.lookup name with
  | some fault => ({ outcome := .error fault }, world)
  | none => call world

/-! ### Speakers -/

/-- What a speaker does: it sends its whole text as one token if it is to be heard. -/
def speak (audible : Bool) (script : World → Script Speech)
    (setScript : Script Speech → World → World) : Consult World String := fun world =>
  let (entry, rest) := (script world).next
  let world := setScript rest world
  match entry.getD (.say "") with
  | .fail fault => ({ outcome := .error fault }, world)
  | .say text => ({ outcome := .ok text, tokens := if audible then [text] else [] }, world)

/-- Writes a plan for a task. -/
def planner (task : Task) : Consult World String := do
  logged (.planner task.instruction task.actor)
  speak false (·.planner) fun script world => { world with planner := script }

/-- Answers a prompt. -/
def oracle (prompt : String) : Consult World String := do
  logged (.oracle prompt)
  speak true (·.oracle) fun script world => { world with oracle := script }

/-- Makes an answer. -/
def solver (request : SolverRequest) : Consult World String := do
  logged (.solver request)
  speak true (·.solver) fun script world => { world with solver := script }

/-! ### Operations -/

/-- Takes the entry of an operation that is due. -/
def takeDeed (name : String) : Consult World Deed :=
  .modify fun world =>
    let (entry, rest) := ((world.deeds.lookup name).getD {}).next
    (.ok (entry.getD .echo), { world with deeds := Entries.set name rest world.deeds })

/-- An operation that follows its script. -/
def operation (info : Operation.Info) : Operation World where
  info := info
  invoke parameters context := do
    logged (.operation info.name parameters context.actor)
    match ← takeDeed info.name with
    | .give value => return value
    | .fail fault => .fail fault
    | .nameActor => return .str context.actor
    | .echo => return parameters

/-! ### A service of language models -/

/-- Takes the answer that is due. -/
def takeAnswer : Consult World Answer :=
  .modify fun world =>
    let (entry, rest) := world.answers.next
    (.ok (entry.getD (.text "")), { world with answers := rest })

/-- The value that holds a text as an answer. -/
def textValue (text : String) : Json :=
  .obj [("model", .str "fake"),
    ("choices", .arr [.obj [("message", .obj [("content", .str text)])]])]

/-- A text cut after each space. -/
def cutWords : List Char → List (List Char)
  | [] => []
  | c :: rest =>
    if c = ' ' then [c] :: cutWords rest
    else
      match cutWords rest with
      | [] => [[c]]
      | word :: words =>
        (c :: word) :: words

/-- The chunk that holds some more text. -/
def deltaChunk (text : List Char) : Model.Chunk :=
  let choice := Json.obj [("delta", .obj [("content", .str (String.ofList text))])]
  let data := (Json.obj [("choices", .arr [choice])]).write
  .ok (Text.encode ("data: ".toList ++ data ++ ['\n', '\n']))

/-- The chunks that hold a text. -/
def textChunks (text : String) : List Model.Chunk :=
  (cutWords text.toList).map deltaChunk ++ [.ok (Text.encode "data: [DONE]\n\n".toList)]

/-- The way to a service that follows its script. -/
def transport : Model.Transport World where
  post call := do
    logged (.model false call)
    match ← takeAnswer with
    | .value value => return value
    | .text text => return textValue text
    | .chunks _ => return textValue ""
    | .fail fault => .fail fault
  postStream call := do
    logged (.model true call)
    match ← takeAnswer with
    | .value _ => return textChunks ""
    | .text text => return textChunks text
    | .chunks chunks => return chunks
    | .fail fault => .fail fault

/-! ### Stores -/

/-- The repository of the messages, whose calls can be made to fail. -/
def repository : Messaging.Repository World :=
  let base := Messaging.Repository.ofStore World.household
  { findUser := fun id => guarded "repo.find_user" (base.findUser id)
    searchUsers := fun name => guarded "repo.search_users_by_name" (base.searchUsers name)
    createConversation := fun participants =>
      guarded "repo.create_conversation" (base.createConversation participants)
    findConversation := fun id => guarded "repo.find_conversation" (base.findConversation id)
    findConversationOf := fun participants =>
      guarded "repo.find_conversation_by_participants" (base.findConversationOf participants)
    conversationsOf := fun user =>
      guarded "repo.list_conversations_for" (base.conversationsOf user)
    createMessage := fun draft => guarded "repo.create_message" (base.createMessage draft)
    listMessages := fun filter page =>
      guarded "repo.list_messages" (base.listMessages filter page)
    countMessages := fun filter => guarded "repo.count_messages" (base.countMessages filter) }

/-- A call of the store of runs. -/
def inCheckpoints (call : Consult Checkpoint.Store α) : Consult World α := fun world =>
  let (reply, checkpoints) := call world.checkpoints
  (reply, { world with checkpoints })

/-- A call of the vault, which can be made to fail. -/
def vaultCall (method thread : String) (kept : Option (Stage × Nat))
    (call : Consult Checkpoint.Store α) : Consult World α := do
  logged (.vault method thread kept)
  guarded ("checkpoints." ++ method) (inCheckpoints call)

/-- The vault of runs. -/
def vault : Vault World :=
  let base := Checkpoint.Store.vault
  { save := fun thread run =>
      vaultCall "save" thread (some (run.stage, run.cursor)) (base.save thread run)
    load := fun thread => vaultCall "load" thread none (base.load thread)
    claim := fun thread => vaultCall "claim" thread none (base.claim thread)
    release := fun thread => vaultCall "release" thread none (base.release thread)
    delete := fun thread => vaultCall "delete" thread none (base.delete thread) }

end Errand.Rehearsal
