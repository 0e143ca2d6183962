/-!
# Samples

What the agent reports about its own work. A counter sample adds one to a counter; a histogram
sample records one measured value. Both carry labels that tell one series from another.
-/

set_option autoImplicit false

namespace Errand.Metrics

/-- The two kinds of series. -/
inductive Kind
  /-- A count of events. -/
  | counter
  /-- A distribution of measured values. -/
  | histogram
deriving DecidableEq, Repr

/-- One report. Of a measured value it says only that there was one: how long something took is
known to the outer layer alone. -/
structure Sample where
  /-- The kind of the series. -/
  kind : Kind
  /-- The name of the series. -/
  name : String
  /-- The labels, by name. -/
  labels : List (String × String)
deriving DecidableEq, Repr

/-- One event more. -/
def Sample.count (name : String) (labels : List (String × String)) : Sample :=
  { kind := .counter, name, labels }

/-- One measured value more. -/
def Sample.measure (name : String) (labels : List (String × String)) : Sample :=
  { kind := .histogram, name, labels }

/-- How the labels of samples tell success from failure. -/
def status (succeeded : Bool) : String :=
  if succeeded then "success" else "error"

/-- The labels of a request that was served. -/
def requestLabels (method route : String) (status : Nat) : List (String × String) :=
  [("method", method), ("route", route), ("status", toString status)]

/-- The labels of a question to a language model, with the purpose for which it was asked. -/
def questionLabels (provider model purpose : String) (succeeded : Bool) :
    List (String × String) :=
  [("provider", provider), ("model", model), ("role", purpose), ("status", status succeeded)]

end Errand.Metrics
