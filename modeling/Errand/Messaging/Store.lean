import Errand.Entries
import Errand.Fault
import Errand.Messaging.Filter

/-!
# Keeping messages in memory

Users and conversations are kept by id, in the order in which the ids first appeared, and messages
in the order in which they were sent. Messages are listed newest first; of messages sent at the same
time the one sent last comes first. What is new gets its id and its time from outside.
-/

set_option autoImplicit false

namespace Errand.Messaging

/-- Users, conversations and messages. -/
structure Store where
  /-- The users, by id. -/
  users : List (String × User) := []
  /-- The conversations, by id. -/
  conversations : List (String × Conversation) := []
  /-- The messages, in the order in which they were sent. -/
  messages : List Message := []
deriving Repr

namespace Store

/-- A store that holds some entities from the start; of entities with one id the last is kept. -/
def ofLists (users : List User) (conversations : List Conversation) (messages : List Message) :
    Store where
  users := users.foldl (fun users user => Entries.set user.id user users) []
  conversations := conversations.foldl
    (fun conversations conversation => Entries.set conversation.id conversation conversations) []
  messages := messages

/-- Adds a user, or replaces the one with the same id. -/
def addUser (store : Store) (user : User) : Store :=
  { store with users := Entries.set user.id user store.users }

/-- The user with an id. -/
def findUser (store : Store) (id : String) : Option User :=
  store.users.lookup id

/-- The users whose names mention a text. -/
def searchUsers (store : Store) (name : String) : List User :=
  (store.users.map (·.2)).filter (mentions ·.name name)

/-- Opens a conversation. -/
def createConversation (store : Store) (participants : List String) (id : String)
    (now : Time.Instant) : Except Fault (Conversation × Store) :=
  if participants.isEmpty then
    .error (.validation "A conversation needs at least one participant")
  else
    let conversation := { id, participants, createdAt := now }
    .ok (conversation,
      { store with conversations := Entries.set id conversation store.conversations })

/-- The conversation with an id. -/
def findConversation (store : Store) (id : String) : Option Conversation :=
  store.conversations.lookup id

/-- The first conversation in which all of some users take part. -/
def findConversationOf (store : Store) (participants : List String) : Option Conversation :=
  (store.conversations.map (·.2)).find? (·.hasEvery participants)

/-- The conversations in which a user takes part. -/
def conversationsOf (store : Store) (user : String) : List Conversation :=
  (store.conversations.map (·.2)).filter (·.has user)

/-- Sends a message in a conversation. -/
def createMessage (store : Store) (draft : Draft) (id : String) (now : Time.Instant) :
    Except Fault (Message × Store) :=
  match store.findConversation draft.conversation with
  | none => .error (.notFound ("Conversation '" ++ draft.conversation ++ "' not found"))
  | some _ =>
    let message := draft.toMessage id now
    .ok (message, { store with messages := store.messages ++ [message] })

/-- Messages, newest first, and of messages of one time the later in the list first. -/
def newestFirst (messages : List Message) : List Message :=
  messages.reverse.mergeSort fun a b => b.createdAt.le a.createdAt

/-- A page of the messages that a filter lets pass, newest first. -/
def listMessages (store : Store) (filter : Filter) (page : Page) : List Message :=
  page.of (newestFirst (store.messages.filter filter.accepts))

/-- How many messages a filter lets pass. -/
def countMessages (store : Store) (filter : Filter) : Nat :=
  store.messages.countP filter.accepts

end Store

end Errand.Messaging
