import Errand.Messaging.Repository

/-!
# Suggested replies

For the recent part of a conversation a suggester proposes replies. It is not told who the senders
are: they are called `user1`, `user2` and so on, in the order of their first appearance.
-/

set_option autoImplicit false

namespace Errand.Messaging

/-- A message whose sender goes by a pseudonym. -/
structure Line where
  /-- The pseudonym. -/
  sender : String
  /-- The text. -/
  message : String
deriving DecidableEq, Repr

/-- The pseudonym of the sender at a place in the order of first appearance, counted from zero. -/
def pseudonym (place : Nat) : String :=
  "user" ++ toString (place + 1)

/-- Messages under pseudonyms, given the senders that have appeared so far. -/
def anonymizeAfter (seen : List String) : List Message → List Line
  | [] => []
  | message :: rest =>
    let line := { sender := pseudonym (seen.idxOf message.sender), message := message.content }
    line :: anonymizeAfter
      (if seen.contains message.sender then seen else seen ++ [message.sender]) rest

/-- Messages under pseudonyms. -/
def anonymize (messages : List Message) : List Line :=
  anonymizeAfter [] messages

/-- A line as a value. -/
def Line.toJson (line : Line) : Json :=
  .obj [("sender", .str line.sender), ("message", .str line.message)]

/-- What the suggestion of replies needs. -/
structure SmartReplies (σ : Type) where
  /-- Where messages are kept. -/
  repository : Repository σ
  /-- Proposes replies to the lines of a conversation. -/
  suggest : List Line → Consult σ (List String)
  /-- How many nanoseconds back the recent part of a conversation begins. -/
  window : Nat := 300 * 1000000000
  /-- Tells the time. -/
  now : σ → Time.Instant

namespace SmartReplies

variable {σ : Type}

/-- The greatest number of nanoseconds that a window may span: milliseconds are counted in 63 bits.
-/
def longestWindow : Nat := (Nat.pow 2 63 - 1) * 1000000

/-- The messages of a conversation from an instant on, oldest first, under pseudonyms. -/
def recentLines (replies : SmartReplies σ) (conversation : String) (since : Time.Instant) :
    Consult σ (List Line) := do
  let messages ← replies.repository.listMessages
    { conversation := some conversation, since := some since } {}
  return anonymize messages.reverse

/-- Suggests replies for a conversation; none if the window begins before all time. -/
def forConversation (replies : SmartReplies σ) (conversation : String) :
    Consult σ (Option (List String)) := do
  match ← replies.repository.findConversation conversation with
  | none => .fail (.notFound ("Conversation '" ++ conversation ++ "' not found"))
  | some _ =>
    if longestWindow < replies.window then
      .fail (.configuration ("Invalid reply window: " ++
        "Source duration value is out of range for the target type"))
    else
      let now ← Consult.modify fun outside => (.ok (replies.now outside), outside)
      match now.before? replies.window with
      | none => return none
      | some since =>
        let lines ← replies.recentLines conversation since
        return some (← replies.suggest lines)

end SmartReplies

end Errand.Messaging
