import Errand.Json.Writer
import Errand.Run.Event

/-!
# Following a run in a terminal

Each event of a run is printed as it arrives: the plan as a numbered list, a step with its result in
one line, a token as it is.
-/

set_option autoImplicit false

namespace Errand.Terminal

/-- The line of a step in the list of a plan. -/
def stepLine (index : Nat) (step : Step) : String :=
  "  " ++ toString (index + 1) ++ ". " ++ step.title ++ " (" ++ step.id ++ " " ++ step.operation ++
    ")\n"

/-- The list of a plan. -/
def planText (plan : Plan) : String :=
  "Plan:\n" ++ String.join (plan.steps.zipIdx.map fun (step, index) => stepLine index step) ++ "\n"

/-- The line of a step that has been carried out. -/
def resultLine (id : String) (payload : Json) : String :=
  let title := ((payload.field? "title").bind Json.str?).getD ""
  let result := match (payload.field? "result").getD .null with
    | .str text => text
    | value => value.compact
  "[" ++ id ++ "] " ++ title ++ " -> " ++ result ++ "\n"

/-- What is printed of an event. -/
def eventText : Event → String
  | .plan plan => planText plan
  | .token text => text
  | .step id payload => resultLine id payload

/-- What is printed at the end. -/
def closing : String := "\n"

/-- All that is printed of a run. -/
def transcript (events : List Event) : String :=
  String.join (events.map eventText) ++ closing

end Errand.Terminal
