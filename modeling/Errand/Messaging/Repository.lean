import Errand.Consult
import Errand.Messaging.Store

/-!
# The messaging service as a collaborator

Operations reach users, conversations and messages through a repository, whose calls may fail. A
store that lies somewhere in the state outside is a repository, given a way to mint ids and to tell
the time there.
-/

set_option autoImplicit false

namespace Errand.Messaging

/-- The calls of a messaging service. -/
structure Repository (σ : Type) where
  /-- The user with an id. -/
  findUser : String → Consult σ (Option User)
  /-- The users whose names mention a text. -/
  searchUsers : String → Consult σ (List User)
  /-- Opens a conversation. -/
  createConversation : List String → Consult σ Conversation
  /-- The conversation with an id. -/
  findConversation : String → Consult σ (Option Conversation)
  /-- The first conversation in which all of some users take part. -/
  findConversationOf : List String → Consult σ (Option Conversation)
  /-- The conversations in which a user takes part. -/
  conversationsOf : String → Consult σ (List Conversation)
  /-- Sends a message. -/
  createMessage : Draft → Consult σ Message
  /-- A page of the messages that a filter lets pass, newest first. -/
  listMessages : Filter → Page → Consult σ (List Message)
  /-- How many messages a filter lets pass. -/
  countMessages : Filter → Consult σ Nat

/-- Where a store, fresh ids and the time are found in the state outside. -/
structure Household (σ : Type) where
  /-- The store. -/
  store : σ → Store
  /-- Replaces the store. -/
  setStore : Store → σ → σ
  /-- Mints an id. -/
  mint : σ → String × σ
  /-- Tells the time. -/
  now : σ → Time.Instant

namespace Repository

variable {σ α : Type}

/-- A call that only looks at the store. -/
def look (house : Household σ) (ask : Store → α) : Consult σ α :=
  .modify fun outside => (.ok (ask (house.store outside)), outside)

/-- A call that adds something new to the store; an id is minted only if that succeeds. -/
def create (house : Household σ)
    (add : Store → (id : String) → (now : Time.Instant) → Except Fault (α × Store)) :
    Consult σ α :=
  .modify fun outside =>
    let (id, after) := house.mint outside
    match add (house.store outside) id (house.now outside) with
    | .error fault => (.error fault, outside)
    | .ok (a, store) => (.ok a, house.setStore store after)

/-- The repository whose entities a store holds. -/
def ofStore (house : Household σ) : Repository σ where
  findUser id := look house (·.findUser id)
  searchUsers name := look house (·.searchUsers name)
  createConversation participants := create house (·.createConversation participants · ·)
  findConversation id := look house (·.findConversation id)
  findConversationOf participants := look house (·.findConversationOf participants)
  conversationsOf user := look house (·.conversationsOf user)
  createMessage draft := create house (·.createMessage draft · ·)
  listMessages filter page := look house (·.listMessages filter page)
  countMessages filter := look house (·.countMessages filter)

end Repository

end Errand.Messaging
