import Errand.Gateway.Refusal
import Errand.Run.Encoding
import Errand.Run.Event

/-!
# Event streams

A client that follows a run gets frames of text: each event of the run under its name, then the
answer or the error, then a mark that closes the stream. A frame has a line for its name, if it has
one, and a line of data; the data is compact JSON or a mark, so it never breaks a line.
-/

set_option autoImplicit false

namespace Errand.Gateway

/-- A frame of an event stream. -/
structure Frame where
  /-- The name. -/
  name : Option String := none
  /-- The data, in one line. -/
  data : String
deriving DecidableEq, Repr

/-- The text of a frame. -/
def Frame.write (frame : Frame) : String :=
  (frame.name.map fun name => "event: " ++ name ++ "\n").getD "" ++
    "data: " ++ frame.data ++ "\n\n"

/-- A frame that holds a value. -/
def Frame.ofJson (name : String) (value : Json) : Frame :=
  { name := some name, data := value.compact }

/-- The frame of an event. -/
def Frame.ofEvent : Event → Frame
  | .plan plan => .ofJson "plan" (.obj [("steps", .arr (plan.steps.map Step.toJson))])
  | .token text => .ofJson "token" (.obj [("text", .str text)])
  | .step _ payload => .ofJson "step" payload

/-- The mark that closes the stream of a run with an answer. -/
def doneMark : String := "[DONE]"

/-- The mark that closes the stream of a run without one. -/
def errorMark : String := "[ERROR]"

/-- The frames that close a stream. -/
def closingFrames (thread : String) : Except Refusal String → List Frame
  | .ok answer =>
    [.ofJson "answer" (.obj [("threadId", .str thread), ("answer", .str answer)]),
      { data := doneMark }]
  | .error refusal =>
    [.ofJson "error" (.obj [("threadId", .str thread), ("error", refusal.detail)]),
      { data := errorMark }]

/-- The text of a stream. -/
def eventStream (thread : String) (events : List Event) (outcome : Except Refusal String) :
    String :=
  String.join ((events.map Frame.ofEvent ++ closingFrames thread outcome).map Frame.write)

end Errand.Gateway
