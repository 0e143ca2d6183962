import Errand.Metrics.Sample
import Errand.Metrics.Summary

/-!
# The page of measurements

What has been counted and measured, as a text page. A series is one line for a counter. A series of
measured values is sorted under upper bounds: for every bound there is a line that counts the values
up to it, then come all values, their sum and their number. Without bounds a series is summed up by
the values at some ranks instead. The values of a series are kept in blocks and taken out block by
block, which shows in the last digit of a sum.
-/

set_option autoImplicit false

namespace Errand.Metrics

open Number (Double)

/-- A sample and the value that was measured, in seconds; a counter has no use for it. -/
structure Observation where
  /-- The report. -/
  sample : Sample
  /-- The measured value. -/
  seconds : Double
deriving Repr

/-- Milliseconds as seconds: the whole seconds, and the rest, rounded, added to them. -/
def secondsOf (milliseconds : Nat) : Double :=
  (Double.ofInt (milliseconds / 1000 : Nat)).add
    (.ofFraction false (milliseconds % 1000) 1000)

/-- The observations of a count and a duration with the same labels. -/
def observe (counter histogram : String) (labels : List (String × String)) (milliseconds : Nat) :
    List Observation :=
  let seconds := secondsOf milliseconds
  [⟨.count counter labels, seconds⟩, ⟨.measure histogram labels, seconds⟩]

/-- The observations of a request that was served. -/
def observeRequest (method route : String) (status milliseconds : Nat) : List Observation :=
  observe "http_requests_total" "http_request_duration_seconds"
    (requestLabels method route status) milliseconds

/-- The observations of a question to a language model. -/
def observeQuestion (provider model purpose : String) (succeeded : Bool) (milliseconds : Nat) :
    List Observation :=
  observe "llm_requests_total" "llm_request_duration_seconds"
    (questionLabels provider model purpose succeeded) milliseconds

namespace Page

/-! ### Lines -/

/-- The value of a label between its quotes. Line ends, quotes and backslashes are escaped; a
backslash before a quote or another backslash is taken for the escape itself. `held` says that a
backslash has been read and not written. -/
def escape (held : Bool) : List Char → List Char
  | [] => if held then ['\\', '\\'] else []
  | '\n' :: rest => '\\' :: 'n' :: escape held rest
  | '"' :: rest => '\\' :: '"' :: escape false rest
  | '\\' :: rest =>
    if held then '\\' :: '\\' :: escape false rest else escape true rest
  | c :: rest => if held then '\\' :: '\\' :: c :: escape false rest else c :: escape false rest

/-- A label with its value. -/
def labelText (label : String × String) : String :=
  label.1 ++ "=\"" ++ String.ofList (escape false label.2.toList) ++ "\""

/-- Labels as they are written. -/
abbrev Inscription := List String

/-- Labels in writing. -/
def inscribe (labels : List (String × String)) : Inscription :=
  labels.map labelText

/-- A line of a series. -/
def line (name : String) (labels : Inscription) (value : String) : String :=
  name ++ (if labels.isEmpty then "" else "\x7b" ++ String.intercalate "," labels ++ "\x7d") ++
    " " ++ value

/-- The line that says of what kind a series is. -/
def typeLine (name kind : String) : String :=
  "# TYPE " ++ name ++ " " ++ kind

/-! ### Values in blocks -/

/-- How many values of a series are kept in one block. -/
def blockSize : Nat := 64

/-- The values of a series in blocks, the newest block first. -/
def blocks (values : List Double) : List (List Double) :=
  ((List.range ((values.length + blockSize - 1) / blockSize)).map fun i =>
    (values.drop (blockSize * i)).take blockSize).reverse

/-- The sum of values, added up in order. -/
def sum (values : List Double) : Double :=
  values.foldl Double.add (.ofInt 0)

/-- The values of some series that a summary knows: for every series its newest block. What is older
is only counted and added up. -/
def recent (series : List (List Double)) : List Double :=
  (series.filterMap fun values => (blocks values).head?).flatten

/-! ### Lines of a series -/

/-- The lines that end a series of measured values. -/
def totals (name : String) (labels : Inscription) (sum : Double) (count : Nat) : List String :=
  [line (name ++ "_sum") labels sum.toText, line (name ++ "_count") labels (toString count)]

/-- For every upper bound, how many of the values are sorted under it or under one before it. A
value is sorted under the first bound that is not less than it. -/
def cumulated (bounds : List Double) (values : List Double) : List (Double × Nat) :=
  bounds.mapIdx fun i bound =>
    (bound, values.countP fun value => (bounds.take (i + 1)).any value.le)

/-- The lines of values sorted under upper bounds. Every block is added up by itself. -/
def bucketLines (bounds : List Double) (name : String) (labels : Inscription)
    (series : List (List Double)) : List String :=
  let values := series.flatten
  let bucket (bound : String) (count : Nat) : String :=
    line (name ++ "_bucket") (labels ++ inscribe [("le", bound)]) (toString count)
  (cumulated bounds values).map (fun (bound, count) => bucket bound.toText count) ++
    bucket "+Inf" values.length ::
      totals name labels (sum ((series.flatMap blocks).map sum)) values.length

/-- The lines of values that are summed up. -/
def rankLines (name : String) (labels : Inscription) (series : List (List Double)) :
    List String :=
  let values := (series.flatMap blocks).flatten
  Summary.ranks.map (fun (rank, thousandths) =>
    line name (labels ++ inscribe [("quantile", rank)])
      (Summary.valueAt (recent series) thousandths).toText) ++
    totals name labels (sum values) values.length

/-- The line of a counter. Of series that look alike the last one is shown. -/
def countLine (name : String) (labels : Inscription) (series : List (List Double)) :
    List String :=
  [line name labels (toString (series.getLast?.getD []).length)]

/-! ### All series -/

/-- The items of a list, gathered by a key in the order in which the keys appear. -/
def gather {α κ : Type} [DecidableEq κ] (key : α → κ) (items : List α) : List (κ × List α) :=
  (items.map key).eraseDups.map fun k => (k, items.filter (key · = k))

/-- The values of the series in observations, which are told apart by their labels. -/
def seriesOf (observations : List Observation) : List (List Double) :=
  (gather (·.sample.labels) observations).map fun (_, alike) => alike.map (·.seconds)

/-- The lines of a kind of series, name by name; a blank line ends every name. Series whose labels
are written alike are shown as one. -/
def group (kind : Kind) (kindText : String)
    (lines : String → Inscription → List (List Double) → List String)
    (observations : List Observation) : List String :=
  (gather (·.sample.name) (observations.filter (·.sample.kind = kind))).flatMap
    fun (name, named) =>
      typeLine name kindText ::
        (gather (inscribe ·.sample.labels) named).flatMap
          (fun (labels, alike) => lines name labels (seriesOf alike)) ++ [""]

end Page

/-- The page, for upper bounds and the version of the service. -/
def page (version : String) (bounds : List Double) (observations : List Observation) : String :=
  let counters := Page.group .counter "counter" Page.countLine observations
  let info := "neuron_agent_info"
  let gauge := [Page.typeLine info "gauge",
    Page.line info (Page.inscribe [("version", version)]) "1", ""]
  let distributions :=
    if bounds.isEmpty then Page.group .histogram "summary" Page.rankLines observations
    else Page.group .histogram "histogram" (Page.bucketLines bounds) observations
  String.join ((counters ++ gauge ++ distributions).map (· ++ "\n"))

end Errand.Metrics
