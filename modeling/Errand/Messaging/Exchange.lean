import Errand.Messaging.Repository
import Errand.Text.Blank

/-!
# Recording exchanges

A task and its answer are recorded as messages between the actor and the assistant, in a
conversation of the two, which is opened if there is none. A blank answer is not recorded.
-/

set_option autoImplicit false

namespace Errand.Messaging

/-- Records what passes between actors and the assistant. -/
structure Recorder (σ : Type) where
  /-- Where messages are kept. -/
  repository : Repository σ
  /-- The id of the assistant's account. -/
  assistant : String

namespace Recorder

variable {σ : Type}

/-- The conversation of an actor with the assistant. -/
def conversationWith (recorder : Recorder σ) (actor : String) : Consult σ Conversation := do
  let participants := [recorder.assistant, actor]
  match ← recorder.repository.findConversationOf participants with
  | some conversation => return conversation
  | none => recorder.repository.createConversation participants

/-- Records a task. -/
def recordTask (recorder : Recorder σ) (actor task : String) : Consult σ Conversation := do
  let conversation ← recorder.conversationWith actor
  let _ ← recorder.repository.createMessage
    { conversation := conversation.id, sender := actor, receiver := recorder.assistant
      content := task }
  return conversation

/-- Records an answer, unless it is blank. -/
def recordAnswer (recorder : Recorder σ) (actor answer : String) :
    Consult σ (Option Message) := do
  if Text.isAllBlank answer then return none
  let conversation ← recorder.conversationWith actor
  let message ← recorder.repository.createMessage
    { conversation := conversation.id, sender := recorder.assistant, receiver := actor
      content := answer }
  return some message

end Recorder

end Errand.Messaging
