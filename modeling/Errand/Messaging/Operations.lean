import Errand.Messaging.Repository
import Errand.Operation.Registry
import Errand.Operation.Schema

/-!
# Messaging operations

The operations with which plans reach users, conversations and messages. Each decodes its parameters
and makes one or two calls of the repository, whose faults it passes on. Messages to the assistant
are left out of the messages that a user sent last. A message can only be sent by the actor.
-/

set_option autoImplicit false

namespace Errand.Messaging

open Json (Decoder Fields)
open Operation (Parameter)

variable {σ : Type}

/-- An operation with its parameters: their title, their names and types, and their shape. -/
def messagingOperation {α : Type} (name description title : String) (parameters : List Parameter)
    (fields : Fields α) (run : α → Operation.Context → Consult σ Json) : Operation σ :=
  .ofShape { name, description, parameters := Operation.schema title parameters }
    (fields.decoder ("struct " ++ title)) run

/-- A field that holds a text. -/
def textField (name : String) : Fields String :=
  .required name Json.Decode.string

/-- A field that may hold a count. -/
def countField (name : String) : Fields (Option Nat) :=
  .nullable name Json.Decode.usize

/-- The value of a list of messages. -/
def messagesJson (messages : List Message) : Json :=
  .arr (messages.map Message.toJson)

/-- Finds the id of the first user whose name mentions a text. -/
def searchUserByName (repository : Repository σ) : Operation σ :=
  messagingOperation "SearchUserByName"
    ("Searches for users by name with case-insensitive partial matching. " ++
      "Returns the ID of the first matching user, or null when nobody matches.")
    "SearchUserByNameParams"
    [{ name := "name", type := .text
       description := some "Full or partial name, matched case-insensitively" }]
    (textField "name")
    fun name _ => do
      let users ← repository.searchUsers name
      return .optStr (users.head?.map (·.id))

/-- The parameter that lists participants. -/
def participantsParameter : Parameter :=
  { name := "participants", type := .texts, description := some "User IDs of every participant" }

/-- The field that lists participants. -/
def participantsField : Fields (List String) :=
  .required "participants" (Json.Decode.list Json.Decode.string)

/-- Finds the id of a conversation of some users. -/
def findConversationIdByParticipants (repository : Repository σ) : Operation σ :=
  messagingOperation "FindConversationIdByParticipants"
    ("Finds the ID of an existing conversation between specific participants. " ++
      "Input is an array of user IDs. Returns null when no such conversation exists.")
    "ParticipantsParams" [participantsParameter] participantsField
    fun participants _ => do
      let conversation ← repository.findConversationOf participants
      return .optStr (conversation.map (·.id))

/-- Opens a conversation. -/
def createNewConversation (repository : Repository σ) : Operation σ :=
  messagingOperation "CreateNewConversation"
    ("Creates a new conversation with the specified participants. " ++
      "Returns the ID of the new conversation.")
    "ParticipantsParams" [participantsParameter] participantsField
    fun participants _ => do
      let conversation ← repository.createConversation participants
      return .str conversation.id

/-- Lists the messages of a conversation. -/
def getMessagesByConversation (repository : Repository σ) : Operation σ :=
  messagingOperation "GetMessagesByConversation"
    ("Retrieves messages from a specific conversation, ordered by most recent first. " ++
      "Use limit and start for pagination.")
    "ConversationMessagesParams"
    [{ name := "conversationId", type := .text },
      { name := "limit", type := .optionalCount
        description := some "Maximum number of messages to return" },
      { name := "start", type := .optionalCount
        description := some "Number of most recent messages to skip" }]
    (Fields.done (fun conversation limit start => (conversation, limit, start))
      |>.and (textField "conversationId") |>.and (countField "limit") |>.and (countField "start"))
    fun (conversation, limit, start) _ => do
      let messages ← repository.listMessages { conversation := some conversation }
        { offset := start.getD 0, limit }
      return messagesJson messages

/-- Lists the conversations of a user. -/
def listUserConversations (repository : Repository σ) : Operation σ :=
  messagingOperation "ListUserConversations"
    "Gets a list of all conversation threads a user is participating in."
    "UserIdParams" [{ name := "userId", type := .text }] (textField "userId")
    fun user _ => do
      let conversations ← repository.conversationsOf user
      return .arr (conversations.map Conversation.toJson)

/-- How many messages that a user sent last are listed if no number is given. -/
def defaultLastSent : Nat := 5

/-- Lists the messages that a user sent last, except those to the assistant. -/
def getLastSentMessages (repository : Repository σ) (assistant : String) : Operation σ :=
  messagingOperation "GetLastSentMessages"
    "Retrieves the last messages sent by a specific user, ordered by most recent first."
    "LastSentParams"
    [{ name := "senderId", type := .text },
      { name := "limit", type := .optionalCount, description := some "Defaults to 5" },
      { name := "start", type := .optionalCount }]
    (Fields.done (fun sender limit start => (sender, limit, start))
      |>.and (textField "senderId") |>.and (countField "limit") |>.and (countField "start"))
    fun (sender, limit, start) _ => do
      let messages ← repository.listMessages
        { sender := some sender, excludeReceiver := some assistant }
        { offset := start.getD 0, limit := some (limit.getD defaultLastSent) }
      return messagesJson messages

/-- Lists the messages of the conversation that two users share. -/
def getConversationMessagesBetweenUsers (repository : Repository σ) : Operation σ :=
  messagingOperation "GetConversationMessagesBetweenUsers"
    "Retrieves messages exchanged between two specific users, most recent first."
    "BetweenUsersParams"
    [{ name := "senderId", type := .text }, { name := "receiverId", type := .text },
      { name := "limit", type := .optionalCount }, { name := "start", type := .optionalCount }]
    (Fields.done (fun sender receiver limit start => (sender, receiver, limit, start))
      |>.and (textField "senderId") |>.and (textField "receiverId")
      |>.and (countField "limit") |>.and (countField "start"))
    fun (sender, receiver, limit, start) _ => do
      match ← repository.findConversationOf [sender, receiver] with
      | none => return .arr []
      | some conversation =>
        let messages ← repository.listMessages { conversation := some conversation.id }
          { offset := start.getD 0, limit }
        return messagesJson messages

/-- Sends a message in the name of the actor. -/
def sendMessage (repository : Repository σ) : Operation σ :=
  messagingOperation "SendMessage"
    ("Sends a new message in a conversation. The sender must be the current user. " ++
      "Returns the stored message.")
    "SendMessageParams"
    [{ name := "senderId", type := .text, description := some "Must be the current user" },
      { name := "receiverId", type := .text }, { name := "content", type := .text },
      { name := "conversationId", type := .text }]
    (Fields.done (fun sender receiver content conversation =>
        { conversation, sender, receiver, content : Draft })
      |>.and (textField "senderId") |>.and (textField "receiverId")
      |>.and (textField "content") |>.and (textField "conversationId"))
    fun draft context =>
      if draft.sender = context.actor then do
        let message ← repository.createMessage draft
        return message.toJson
      else
        .fail (.permissionDenied ("User '" ++ context.actor ++ "' cannot send messages as '" ++
          draft.sender ++ "'"))

/-- Finds a user. -/
def getUserDetails (repository : Repository σ) : Operation σ :=
  messagingOperation "GetUserDetails"
    "Gets detailed information about a user by their unique ID."
    "GetUserDetailsParams" [{ name := "userId", type := .text }] (textField "userId")
    fun id _ => do
      let user ← repository.findUser id
      return (user.map User.toJson).getD .null

/-- Counts the messages of a user: sent, received, and both together. -/
def getUserMessageStatistics (repository : Repository σ) : Operation σ :=
  messagingOperation "GetUserMessageStatistics"
    "Returns messaging statistics for a user: messages sent, received and in total."
    "UserStatisticsParams" [{ name := "userId", type := .text }] (textField "userId")
    fun user _ => do
      let sent ← repository.countMessages { sender := some user }
      let received ← repository.countMessages { receiver := some user }
      return .obj [("sentCount", .nat sent), ("receivedCount", .nat received),
        ("totalCount", .nat (sent + received))]

/-- Counts the messages and the participants of a conversation. -/
def getConversationStatistics (repository : Repository σ) : Operation σ :=
  messagingOperation "GetConversationStatistics"
    ("Provides statistics for a specific conversation: the total number of messages " ++
      "and the number of participants.")
    "ConversationIdParams" [{ name := "conversationId", type := .text }]
    (textField "conversationId")
    fun id _ => do
      let messages ← repository.countMessages { conversation := some id }
      let conversation ← repository.findConversation id
      return .obj [("messageCount", .nat messages),
        ("participantCount", .nat (conversation.elim 0 (·.participants.length)))]

/-- Lists the messages of a user that mention a text. -/
def searchUserMessages (repository : Repository σ) : Operation σ :=
  messagingOperation "SearchUserMessages"
    "Searches through a user's sent and received messages for a specific keyword or phrase."
    "SearchMessagesParams"
    [{ name := "userId", type := .text },
      { name := "query", type := .text
        description := some "Keyword or phrase, matched case-insensitively" },
      { name := "limit", type := .optionalCount }]
    (Fields.done (fun user query limit => (user, query, limit))
      |>.and (textField "userId") |>.and (textField "query") |>.and (countField "limit"))
    fun (user, query, limit) _ => do
      let messages ← repository.listMessages
        { involving := some user, contains := some query } { limit }
      return messagesJson messages

/-- All messaging operations. -/
def operations (repository : Repository σ) (assistant : String) : List (Operation σ) :=
  [searchUserByName repository, findConversationIdByParticipants repository,
    createNewConversation repository, getMessagesByConversation repository,
    listUserConversations repository, getLastSentMessages repository assistant,
    getConversationMessagesBetweenUsers repository, sendMessage repository,
    getUserDetails repository, getUserMessageStatistics repository,
    getConversationStatistics repository, searchUserMessages repository]

end Errand.Messaging
