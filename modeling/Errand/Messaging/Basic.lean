import Errand.Json.Decode
import Errand.Time.Instant

/-!
# Users, conversations and messages

Users send each other messages inside conversations. A conversation has a fixed list of
participants; the sender and the receiver of a message need not be among them. Read from a text, an
entity without a time of creation was created now.
-/

set_option autoImplicit false

namespace Errand.Messaging

open Json (Decoder Fields)
open Time (Instant)

/-- A person, or the assistant's own account. -/
structure User where
  /-- The id. -/
  id : String
  /-- The address. -/
  email : String
  /-- The name. -/
  name : String
  /-- Where a picture is found. -/
  profilePic : Option String := none
  /-- When the user was last seen. -/
  lastActive : Option Instant := none
  /-- When the account was opened. -/
  createdAt : Instant
deriving DecidableEq, Repr

/-- A place where messages are exchanged. -/
structure Conversation where
  /-- The id. -/
  id : String
  /-- The ids of the participants. -/
  participants : List String
  /-- When it was opened. -/
  createdAt : Instant
deriving DecidableEq, Repr

/-- A message that has been sent. -/
structure Message where
  /-- The id. -/
  id : String
  /-- The id of the conversation. -/
  conversation : String
  /-- The id of the sender. -/
  sender : String
  /-- The id of the receiver. -/
  receiver : String
  /-- The text. -/
  content : String
  /-- When it was sent. -/
  createdAt : Instant
deriving DecidableEq, Repr

/-- A message to be sent. -/
structure Draft where
  /-- The id of the conversation. -/
  conversation : String
  /-- The id of the sender. -/
  sender : String
  /-- The id of the receiver. -/
  receiver : String
  /-- The text. -/
  content : String
deriving DecidableEq, Repr

/-- Whether a user takes part. -/
def Conversation.has (conversation : Conversation) (user : String) : Bool :=
  conversation.participants.contains user

/-- Whether all of some users take part. -/
def Conversation.hasEvery (conversation : Conversation) (users : List String) : Bool :=
  users.all conversation.has

/-- The message that comes of a draft. -/
def Draft.toMessage (draft : Draft) (id : String) (now : Instant) : Message :=
  { id, conversation := draft.conversation, sender := draft.sender, receiver := draft.receiver
    content := draft.content, createdAt := now }

/-! ### As JSON -/

/-- An instant, as a text. -/
def instant : Decoder Instant := fun place source => do
  let text ← Json.Decode.text "an RFC 3339 formatted date and time string" place source
  match Instant.read text.toList with
  | .ok instant => return instant
  | .error error => Json.wrongShape (.custom error.message)

/-- The shape of a user. -/
def User.decoder (now : Instant) : Decoder User :=
  (Fields.done User.mk
    |>.and (.required "id" Json.Decode.string)
    |>.and (.required "email" Json.Decode.string)
    |>.and (.required "name" Json.Decode.string)
    |>.and (.nullable "profilePic" Json.Decode.string)
    |>.and (.nullable "lastActive" instant)
    |>.and (.withDefault "createdAt" instant now)).decoder "struct User"

/-- A user as a value. -/
def User.toJson (user : User) : Json :=
  .obj [("id", .str user.id), ("email", .str user.email), ("name", .str user.name),
    ("profilePic", .optStr user.profilePic),
    ("lastActive", .optStr (user.lastActive.map Instant.toText)),
    ("createdAt", .str user.createdAt.toText)]

/-- The shape of a conversation. -/
def Conversation.decoder (now : Instant) : Decoder Conversation :=
  (Fields.done Conversation.mk
    |>.and (.required "id" Json.Decode.string)
    |>.and (.required "participants" (Json.Decode.list Json.Decode.string))
    |>.and (.withDefault "createdAt" instant now)).decoder "struct Conversation"

/-- A conversation as a value. -/
def Conversation.toJson (conversation : Conversation) : Json :=
  .obj [("id", .str conversation.id), ("participants", .arr (conversation.participants.map .str)),
    ("createdAt", .str conversation.createdAt.toText)]

/-- The shape of a message. -/
def Message.decoder (now : Instant) : Decoder Message :=
  (Fields.done Message.mk
    |>.and (.required "id" Json.Decode.string)
    |>.and (.required "conversationId" Json.Decode.string)
    |>.and (.required "senderId" Json.Decode.string)
    |>.and (.required "receiverId" Json.Decode.string)
    |>.and (.required "content" Json.Decode.string)
    |>.and (.withDefault "createdAt" instant now)).decoder "struct ChatMessage"

/-- A message as a value. -/
def Message.toJson (message : Message) : Json :=
  .obj [("id", .str message.id), ("conversationId", .str message.conversation),
    ("senderId", .str message.sender), ("receiverId", .str message.receiver),
    ("content", .str message.content), ("createdAt", .str message.createdAt.toText)]

end Errand.Messaging
