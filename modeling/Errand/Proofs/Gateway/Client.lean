import Errand.Gateway.EventStream
import Errand.Proofs.Json.Compact
import Errand.Proofs.Run.Speech
import Errand.Proofs.Text.Lines

/-!
# What a client reads

A client reads the text of an event stream line by line, as any client of event streams does: a line
that is blank ends a frame, a line of data adds to it, a line with a name names it, and every other
line is passed over. `Frame.readAll_write` says that it reads the frames that were written, if every
frame keeps to its lines, and `readAll_eventStream` that it reads the frames of a run, whatever
texts they hold.
-/

set_option autoImplicit false

namespace Errand.Gateway

open Text (IsOneLine)

/-! ### Reading a stream -/

/-- The text with a line feed at the end of every line; a carriage return may stand there instead,
or before it. -/
def withLineFeeds : List Char → List Char
  | [] => []
  | '\r' :: '\n' :: text => '\n' :: withLineFeeds text
  | '\r' :: text => '\n' :: withLineFeeds text
  | c :: text => c :: withLineFeeds text

/-- What has been read of a frame that has not ended yet. -/
structure Received where
  /-- The name. -/
  name : Option String := none
  /-- The lines of data. -/
  data : List String := []

namespace Received

/-- The frame, if there were any data. -/
def frame? (received : Received) : Option Frame :=
  if received.data.isEmpty then none
  else some { name := received.name, data := "\n".intercalate received.data }

/-- Takes in a line that is not blank: a field, a colon, perhaps a space, and a value. -/
def take (received : Received) (line : List Char) : Received :=
  let field := line.takeWhile (· != ':')
  let value := match line.drop (field.length + 1) with
    | ' ' :: value => value
    | value => value
  match String.ofList field with
  | "event" => { received with name := some (String.ofList value) }
  | "data" => { received with data := received.data ++ [String.ofList value] }
  | _ => received

/-- The frames that lines hold, given what has been read of the first. -/
def frames (received : Received) : List (List Char) → List Frame
  | [] => []
  | [] :: lines => received.frame?.toList ++ frames {} lines
  | line :: lines => frames (received.take line) lines

end Received

/-- The frames of a text. -/
def Frame.readAll (text : String) : List Frame :=
  Received.frames {} (Text.splitLines (withLineFeeds text.toList)).1

/-! ### What is written is read -/

theorem withLineFeeds_of_notMem {text : List Char} (h : '\r' ∉ text) :
    withLineFeeds text = text := by
  fun_induction withLineFeeds text with
  | case1 => rfl
  | case2 => simp at h
  | case3 => simp at h
  | case4 c text _ _ ih => rw [ih (List.not_mem_of_not_mem_cons h)]

/-- Whether the name and the data of a frame keep to their lines. -/
structure Frame.IsOneLine (frame : Frame) : Prop where
  name : ∀ name ∈ frame.name, Text.IsOneLine name.toList
  data : Text.IsOneLine frame.data.toList

namespace Received

theorem take_event (received : Received) (name : String) :
    received.take ("event: ".toList ++ name.toList) = { received with name := some name } := by
  simp [take]

theorem take_data (received : Received) (data : String) :
    received.take ("data: ".toList ++ data.toList) =
      { received with data := received.data ++ [data] } := by
  simp [take]

end Received

namespace Frame

/-- The lines of a frame, without the blank one that ends it. -/
def lines (frame : Frame) : List (List Char) :=
  (frame.name.map fun name ↦ "event: ".toList ++ name.toList).toList ++
    ["data: ".toList ++ frame.data.toList]

theorem toList_write (frame : Frame) :
    frame.write.toList = (frame.lines ++ [[]]).flatMap (· ++ ['\n']) := by
  cases hname : frame.name <;> simp [write, lines, hname]

theorem IsOneLine.lines {frame : Frame} (h : frame.IsOneLine) :
    ∀ line ∈ frame.lines ++ [[]], Text.IsOneLine line := by
  intro line hline
  simp only [Frame.lines, List.mem_append, Option.mem_toList, Option.map_eq_some_iff,
    List.mem_singleton] at hline
  rcases hline with (⟨name, hname, rfl⟩ | rfl) | rfl
  · exact Text.isOneLine_append.mpr ⟨by simp [Text.isOneLine_nil], h.name name hname⟩
  · exact Text.isOneLine_append.mpr ⟨by simp [Text.isOneLine_nil], h.data⟩
  · exact Text.isOneLine_nil

/-- The lines of a frame, and the blank one after them, hold this frame. -/
theorem frames_lines (frame : Frame) (rest : List (List Char)) :
    Received.frames {} (frame.lines ++ [] :: rest) = frame :: Received.frames {} rest := by
  obtain ⟨name, data⟩ := frame
  cases name with
  | none =>
    change Received.frames (Received.take {} ("data: ".toList ++ data.toList)) ([] :: rest) = _
    rw [Received.take_data]
    rfl
  | some name =>
    change Received.frames ((Received.take {} ("event: ".toList ++ name.toList)).take
      ("data: ".toList ++ data.toList)) ([] :: rest) = _
    rw [Received.take_event, Received.take_data]
    rfl

theorem frames_flatMap_lines (frames : List Frame) :
    Received.frames {} (frames.flatMap fun frame ↦ frame.lines ++ [[]]) = frames := by
  induction frames with
  | nil => rfl
  | cons frame frames ih =>
    rw [List.flatMap_cons, List.append_assoc, List.singleton_append, frames_lines, ih]

/-- The frames that were written are read. -/
theorem readAll_write {frames : List Frame} (h : ∀ frame ∈ frames, frame.IsOneLine) :
    readAll (String.join (frames.map write)) = frames := by
  let lines := frames.flatMap fun frame ↦ frame.lines ++ [[]]
  have hlines : ∀ line ∈ lines, Text.IsOneLine line := by
    intro line hline
    obtain ⟨frame, hframe, hmem⟩ := List.mem_flatMap.mp hline
    exact (h frame hframe).lines line hmem
  have htext : (String.join (frames.map write)).toList = lines.flatMap (· ++ ['\n']) := by
    simp [String.toList_join, List.flatMap_map, List.flatMap_assoc, lines, toList_write]
  have hreturn : '\r' ∉ lines.flatMap (· ++ ['\n']) := by
    intro hmem
    obtain ⟨line, hline, hreturn⟩ := List.mem_flatMap.mp hmem
    rcases List.mem_append.mp hreturn with hin | hend
    · exact (hlines line hline '\r' hin).2 rfl
    · exact absurd hend (by decide)
  rw [readAll, htext, withLineFeeds_of_notMem hreturn,
    Text.splitLines_lines fun line hline hfeed ↦ (hlines line hline '\n' hfeed).1 rfl]
  exact frames_flatMap_lines frames

theorem isOneLine_ofJson {name : String} (hname : Text.IsOneLine name.toList) (value : Json) :
    (ofJson name value).IsOneLine where
  name other hother := by
    obtain rfl := Option.mem_some.mp hother
    exact hname
  data := value.isOneLine_compact

theorem isOneLine_ofEvent (event : Event) : (ofEvent event).IsOneLine := by
  cases event <;> exact isOneLine_ofJson (by simp [Text.isOneLine_nil]) _

end Frame

theorem isOneLine_closingFrames (thread : String) (outcome : Except Refusal String) :
    ∀ frame ∈ closingFrames thread outcome, frame.IsOneLine := by
  cases outcome <;>
    simp only [closingFrames, List.forall_mem_cons, List.not_mem_nil, false_imp_iff, implies_true,
      and_true] <;>
    exact ⟨Frame.isOneLine_ofJson (by simp [Text.isOneLine_nil]) _,
      by simp, by simp [doneMark, errorMark, Text.isOneLine_nil]⟩

/-- A client reads the frames of a run, whatever happened in it and however it ended. -/
theorem readAll_eventStream (thread : String) (events : List Event)
    (outcome : Except Refusal String) :
    Frame.readAll (eventStream thread events outcome) =
      events.map Frame.ofEvent ++ closingFrames thread outcome := by
  refine Frame.readAll_write fun frame hframe ↦ ?_
  rcases List.mem_append.mp hframe with hshown | hclosing
  · obtain ⟨event, -, rfl⟩ := List.mem_map.mp hshown
    exact Frame.isOneLine_ofEvent event
  · exact isOneLine_closingFrames thread outcome frame hclosing

/-! ### Tokens and answers -/

namespace Frame

/-- The text in a field of the value that a frame holds, if the frame has a certain name. -/
def text? (frame : Frame) (name field : String) : Option String :=
  if frame.name = some name then
    ((Json.parse frame.data).toOption.bind (·.field? field)).bind Json.str?
  else none

/-- The text of a frame that tells a token. -/
def token? (frame : Frame) : Option String :=
  frame.text? "token" "text"

/-- The answer of a frame that tells one. -/
def answer? (frame : Frame) : Option String :=
  frame.text? "answer" "answer"

theorem text?_ofJson {value : Json} (h : value.Returns) (name field : String) :
    (ofJson name value).text? name field = (value.field? field).bind Json.str? := by
  have hparse : Json.parse (ofJson name value).data = .ok value := h
  have hname : (ofJson name value).name = some name := rfl
  rw [text?, if_pos hname, hparse]
  rfl

theorem text?_of_ne {frame : Frame} {name : String} (h : frame.name ≠ some name) (field : String) :
    frame.text? name field = none :=
  if_neg h

/-- A client reads the tokens that were shown. -/
theorem token?_ofEvent (event : Event) : (ofEvent event).token? = event.token? := by
  cases event with
  | plan plan => exact text?_of_ne (by simp [ofEvent, ofJson]) _
  | token text =>
    exact text?_ofJson (Json.returns_texts [("text", text)] (by simp)) _ _
  | step id payload => exact text?_of_ne (by simp [ofEvent, ofJson]) _

theorem answer?_ofEvent (event : Event) : (ofEvent event).answer? = none := by
  cases event <;> exact text?_of_ne (by simp [ofEvent, ofJson]) _

end Frame

/-- A client reads the answer in the frames that close a stream, and no tokens. -/
theorem reads_closingFrames (thread answer : String) :
    (closingFrames thread (.ok answer)).filterMap Frame.answer? = [answer] ∧
      (closingFrames thread (.ok answer)).filterMap Frame.token? = [] := by
  let value : Json := .obj [("threadId", .str thread), ("answer", .str answer)]
  have hanswer : (Frame.ofJson "answer" value).answer? = some answer :=
    Frame.text?_ofJson (Json.returns_texts [("threadId", thread), ("answer", answer)] (by simp)) _ _
  have htoken : (Frame.ofJson "answer" value).token? = none :=
    Frame.text?_of_ne (by simp [Frame.ofJson]) _
  have hmark : ({ data := doneMark } : Frame).answer? = none := Frame.text?_of_ne (by simp) _
  have hmark' : ({ data := doneMark } : Frame).token? = none := Frame.text?_of_ne (by simp) _
  constructor
  · rw [closingFrames, List.filterMap_cons_some hanswer, List.filterMap_cons_none hmark,
      List.filterMap_nil]
  · rw [closingFrames, List.filterMap_cons_none htoken, List.filterMap_cons_none hmark',
      List.filterMap_nil]

/-- A client that follows a run to its answer reads the tokens that were shown and this answer. -/
theorem reads_answer (thread : String) (events : List Event) (answer : String) :
    let frames := Frame.readAll (eventStream thread events (.ok answer))
    frames.filterMap Frame.token? = events.filterMap Event.token? ∧
      frames.filterMap Frame.answer? = [answer] := by
  obtain ⟨hanswer, hnone⟩ := reads_closingFrames thread answer
  have htokens : Frame.token? ∘ Frame.ofEvent = Event.token? := funext Frame.token?_ofEvent
  have hanswers : Frame.answer? ∘ Frame.ofEvent = fun _ ↦ none := funext Frame.answer?_ofEvent
  simp only [readAll_eventStream, List.filterMap_append, List.filterMap_map, htokens, hanswers,
    hanswer, hnone]
  simp

end Errand.Gateway
