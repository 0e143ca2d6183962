import Errand.Messaging.Store

/-!
# Seeds

A seed is a text that holds the users, conversations and messages with which a store begins.
-/

set_option autoImplicit false

namespace Errand.Messaging

open Json (Decoder Fields)

/-- What a store begins with. -/
structure Seed where
  /-- The users. -/
  users : List User
  /-- The conversations. -/
  conversations : List Conversation
  /-- The messages. -/
  messages : List Message
deriving DecidableEq, Repr

namespace Seed

/-- The shape of a seed. -/
def decoder (now : Time.Instant) : Decoder Seed :=
  (Fields.done Seed.mk
    |>.and (.withDefault "users" (Json.Decode.list (User.decoder now)) [])
    |>.and (.withDefault "conversations" (Json.Decode.list (Conversation.decoder now)) [])
    |>.and (.withDefault "messages" (Json.Decode.list (Message.decoder now)) [])).decoder
      "struct MessagingSeed"

/-- The seed that a text stands for. -/
def read (now : Time.Instant) (text : String) : Except Fault Seed :=
  match Json.decodeText (decoder now) text.toList with
  | .ok seed => .ok seed
  | .error (.flaw _) => .error (.configuration "Invalid messaging seed")
  | .error (.shape error) => .error (.configuration ("Invalid messaging seed: " ++ error.message))

/-- The store that begins with a seed. -/
def store (seed : Seed) : Store :=
  .ofLists seed.users seed.conversations seed.messages

end Seed

end Errand.Messaging
