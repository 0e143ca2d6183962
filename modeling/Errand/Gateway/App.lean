import Errand.Messaging.Exchange
import Errand.Messaging.Replies
import Errand.Run.Drive

/-!
# The service

What the requests of clients are served with.
-/

set_option autoImplicit false

namespace Errand.Gateway

/-- The parts of the service. -/
structure App (σ : Type) where
  /-- The collaborators of runs. -/
  team : Team σ
  /-- Records tasks and answers as messages, if that is wanted. -/
  recorder : Option (Messaging.Recorder σ) := none
  /-- Suggests replies, if that is wanted. -/
  smartReplies : Option (Messaging.SmartReplies σ) := none
  /-- Mints the id of a thread. -/
  freshThread : σ → String × σ
  /-- For how many milliseconds the service has been busy with a request. -/
  elapsed : σ → Nat := fun _ => 0

/-- The version of the service. -/
def version : String := "0.1.0"

end Errand.Gateway
