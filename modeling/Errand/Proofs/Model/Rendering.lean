import Errand.Proofs.Consult
import Errand.Proofs.Json.Compact
import Errand.Proofs.Json.Decoding
import Errand.Proofs.Model.Chunking
import Errand.Proofs.Text.Classes

/-!
# One answer, whole or in pieces

A service brings an answer whole, as a value, or renders it as a stream of lines. `Renders`
describes the streams that it may send: lines of data with the text of a chunk, which may have
fields that nobody asks for, other lines in between, and at the end the mark that closes the stream.
`MakesUp` says that parts are the pieces into which a choice was cut. `Provider.stream_of_rendering`
compares the two ways of asking: the deltas of the stream make up the text of the whole answer, and
what comes after them depends on why the answer stopped. After a plain stop it is one end, complete
as in the whole answer. After any other stop the closing mark reports a second end, and reports it
as complete (`stream_of_truncated_answer`).
-/

set_option autoImplicit false

namespace Errand.Model

open Text (encode)
open Json (Place Source)

namespace Chat

/-! ### Chunks as values -/

/-- Whether an object shows a text under a name; for none, whether it shows null or nothing. -/
def ShowsText (object : List (String × Json)) (name : String) : Option String → Prop
  | some text => object.lookup name = some (.str text)
  | none => object.lookup name = some .null ∨ object.lookup name = none

/-- The values that stand for a choice of a chunk, whatever other fields they have. -/
inductive IsPart (part : Choice) : Json → Prop
  | intro {object delta : List (String × Json)} (hnames : (Entries.names object).Nodup)
      (hdelta : object.lookup "delta" = some (.obj delta))
      (hdeltaNames : (Entries.names delta).Nodup)
      (hcontent : ShowsText delta "content" part.content)
      (hfinish : ShowsText object "finish_reason" part.finish) : IsPart part (.obj object)

/-- The values that stand for a chunk with these choices, whatever other fields they have. -/
inductive IsChunk (choices : List Choice) : Json → Prop
  | intro {object : List (String × Json)} {items : List Json}
      (hnames : (Entries.names object).Nodup) (hitems : object.lookup "choices" = some (.arr items))
      (hchoices : List.Forall₂ IsPart choices items) : IsChunk choices (.obj object)

theorem ShowsText.give {object : List (String × Json)} {name : String} {text : Option String}
    (h : ShowsText object name text) (place : Place) :
    (Json.Fields.optional name Json.Decode.string).Give place object text := by
  cases text with
  | some text => exact .optional h rfl
  | none =>
    rcases h with hnull | habsent
    · exact .optional hnull rfl
    · exact .absent habsent

theorem IsPart.decode {part : Choice} {value : Json} (h : IsPart part value) {place : Place}
    (hdepth : place.depth + 1 < Source.maxDepth) :
    chunkChoiceDecoder place (.ofJson value) = .ok part := by
  obtain ⟨hnames, hdelta, hdeltaNames, hcontent, hfinish⟩ := h
  have hmessage : deltaDecoder place.deeper (.ofJson (.obj _)) = .ok part.content :=
    Json.Fields.decoder_obj "struct ChunkDelta" hdepth hdeltaNames
      (.and (.done id) (hcontent.give _))
  exact Json.Fields.decoder_obj "struct ChunkChoice" (Nat.lt_of_succ_lt hdepth) hnames
    (.and (.and (.done Choice.mk) (.required hdelta hmessage)) (hfinish.give _))

theorem IsChunk.decode {choices : List Choice} {value : Json} (h : IsChunk choices value) :
    chunkDecoder { fromText := true } (.ofJson value) = .ok choices := by
  obtain ⟨hnames, hitems, hchoices⟩ := h
  have hlist : Json.Decode.list chunkChoiceDecoder { fromText := true, depth := 1 }
      (.ofJson (.arr _)) = .ok choices :=
    Json.Decode.list_arr_of_forall₂ chunkChoiceDecoder (by decide)
      (hchoices.flip.imp fun item part hpart ↦ hpart.decode (by decide))
  exact Json.Fields.decoder_obj "struct ChatChunk" (by decide) hnames
    (.and (.done id) (.required hitems hlist))

/-! ### Lines of a stream -/

/-- The lines of a stream that hold data, with blanks before and after it. -/
inductive IsData (data : List Char) : List Char → Prop
  | intro {before after : List Char} (hbefore : ∀ c ∈ before, Text.isBlank c)
      (hafter : ∀ c ∈ after, Text.isBlank c) :
      IsData data ("data:".toList ++ (before ++ (data ++ after)))

/-- Whether a line holds no data: a blank one, a comment or another field. -/
def IsAside (line : List Char) : Prop :=
  ¬ "data:".toList <+: line

/-- The lines of a stream whose chunks have these first choices, and which is closed. -/
inductive Renders : List Choice → List (List Char) → Prop
  /-- The mark that closes the stream. -/
  | mark {line : List Char} {lines : List (List Char)} (hline : IsData doneMark.toList line)
      (hlines : ∀ line ∈ lines, IsAside line) : Renders [] (line :: lines)
  /-- A line that holds no data. -/
  | aside {parts : List Choice} {line : List Char} {lines : List (List Char)}
      (hline : IsAside line) (hlines : Renders parts lines) : Renders parts (line :: lines)
  /-- The text of a chunk. -/
  | chunk {choices parts : List Choice} {value : Json} {data line : List Char}
      {lines : List (List Char)} (hvalue : IsChunk choices value)
      (hread : Json.readDocument data = { root := .ofJson value, trailing := none })
      (htrim : Text.trim data = data) (hline : IsData data line) (hlines : Renders parts lines) :
      Renders (choices.head?.toList ++ parts) (line :: lines)

theorem stripFront_append (front text : List Char) :
    Text.stripFront front (front ++ text) = some text := by
  induction front with
  | nil => rfl
  | cons c front ih => simpa [Text.stripFront] using ih

theorem isPrefix_of_stripFront {front text rest : List Char}
    (h : Text.stripFront front text = some rest) : front <+: text := by
  induction front generalizing text with
  | nil => exact List.nil_prefix
  | cons c front ih =>
    cases text with
    | nil => simp [Text.stripFront] at h
    | cons d text =>
      simp only [Text.stripFront, Option.ite_none_right_eq_some] at h
      obtain ⟨rfl, h⟩ := h
      exact List.prefix_cons_iff.mpr (.inr ⟨_, rfl, ih h⟩)

theorem IsAside.payload {line : List Char} (h : IsAside line) :
    LineBuffer.payload? line = none := by
  have hfront : Text.stripFront "data:".toList (Text.trimEnd line) = none := by
    rw [Option.eq_none_iff_forall_ne_some]
    intro rest hrest
    exact h ((isPrefix_of_stripFront hrest).trans (Text.dropEndWhile_isPrefix _ _))
  rw [LineBuffer.payload?, hfront]
  rfl

/-- The payload of a line of data is the data, which have no blanks at their own ends. -/
theorem IsData.payload {data line : List Char} (h : IsData data line)
    (htrim : Text.trim data = data) (hne : data ≠ []) :
    LineBuffer.payload? line = some data := by
  obtain @⟨before, after, hbefore, hafter⟩ := h
  have hhead : ∀ c ∈ data.head?, Text.isBlank c = false := by
    rw [← htrim]
    exact Text.head?_stripWhile _ _
  have hlast : ∀ c ∈ data.getLast?, Text.isBlank c = false := by
    rw [← htrim]
    exact Text.getLast?_stripWhile _ _
  have hend : Text.trimEnd ("data:".toList ++ (before ++ (data ++ after))) =
      "data:".toList ++ (before ++ data) := by
    simp only [← List.append_assoc]
    rw [Text.trimEnd, Text.dropEndWhile_append hafter, Text.dropEndWhile_eq_self]
    rwa [List.getLast?_append_of_ne_nil _ hne]
  rw [LineBuffer.payload?, hend, stripFront_append, Option.map_some, Text.trimStart,
    List.dropWhile_append_of_pos hbefore, Text.dropWhile_eq_self hhead]

theorem readData_doneMark : readData doneMark.toList = [.finished .complete] := by
  decide +kernel

/-- Whether a text that is read is that of an object. -/
def isObject : Source → Bool
  | .obj _ _ => true
  | _ => false

theorem IsChunk.isObject {choices : List Choice} {value : Json} (h : IsChunk choices value) :
    isObject (.ofJson value) = true := by
  cases h
  rfl

/-- The text of a chunk is read as the pieces of its first choice. -/
theorem readData_chunk {choices : List Choice} {value : Json} {data : List Char}
    (hvalue : IsChunk choices value)
    (hread : Json.readDocument data = { root := .ofJson value, trailing := none })
    (htrim : Text.trim data = data) :
    readData data = choices.head?.toList.flatMap Choice.pieces := by
  have hne : data ≠ doneMark.toList := by
    rintro rfl
    have hmark : isObject (Json.readDocument doneMark.toList).root = false := by decide +kernel
    simp [hread, hvalue.isObject] at hmark
  have hdecode : Json.decodeText chunkDecoder data = .ok choices := by
    rw [Json.decodeText, hread]
    simp only [hvalue.decode]
  rw [readData, htrim, if_neg hne, hdecode]
  cases choices <;> simp

/-- The lines of a stream hold the pieces of its parts, and the end that the closing mark reports.
-/
theorem Renders.pieces {parts : List Choice} {lines : List (List Char)} (h : Renders parts lines) :
    (lines.filterMap LineBuffer.payload?).flatMap readData =
      parts.flatMap Choice.pieces ++ [.finished .complete] := by
  induction h with
  | @mark line lines hline hlines =>
    have hrest : lines.filterMap LineBuffer.payload? = [] :=
      List.filterMap_eq_nil_iff.mpr fun line hline ↦ (hlines line hline).payload
    rw [List.filterMap_cons_some (hline.payload (by decide +kernel) (by decide)), hrest,
      List.flatMap_cons, readData_doneMark]
    rfl
  | aside hline _ ih => rw [List.filterMap_cons_none hline.payload, ih]
  | @chunk choices parts value data line lines hvalue hread htrim hline hlines ih =>
    have hne : data ≠ [] := by
      rintro rfl
      have hnone : isObject (Json.readDocument []).root = false := by decide +kernel
      simp [hread, hvalue.isObject] at hnone
    rw [List.filterMap_cons_some (hline.payload htrim hne), List.flatMap_cons, ih,
      readData_chunk hvalue hread htrim, List.flatMap_append, List.append_assoc]

/-! ### Streams that are sent -/

/-- A chunk with one choice, as it is sent. -/
def Choice.chunk (part : Choice) : Json :=
  .obj [("id", .str "c1"), ("choices", .arr [.obj
    [("delta", .obj [("content", .optStr part.content)]),
      ("finish_reason", .optStr part.finish)]])]

/-- A stream of parts as it is sent, line by line. -/
def rendering (parts : List Choice) : List (List Char) :=
  parts.map (fun part ↦ "data: ".toList ++ Json.write part.chunk) ++
    ["data: ".toList ++ doneMark.toList]

theorem Choice.isChunk_chunk (part : Choice) : IsChunk [part] part.chunk := by
  refine .intro (by simp [Entries.names]) rfl (.cons ?_ .nil)
  refine .intro (by simp [Entries.names]) rfl (by simp [Entries.names]) ?_ ?_
  · cases part.content <;> simp [ShowsText, Json.optStr]
  · cases part.finish <;> simp [ShowsText, Json.optStr, List.lookup_cons]

theorem Choice.isWhole_chunk (part : Choice) : Json.IsWhole part.chunk := by
  cases hcontent : part.content <;> cases hfinish : part.finish <;>
    simp [chunk, Json.optStr, hcontent, hfinish, Json.IsWhole, Json.AreWhole, Json.HaveWhole]

/-- A line of data as it is sent has a space before the data. -/
theorem isData_space (data : List Char) : IsData data ("data: ".toList ++ data) := by
  have hspace : ∀ c ∈ [' '], Text.isBlank c := by simp [Text.isBlank]
  simpa using IsData.intro hspace (List.forall_mem_nil _)

/-- Every list of parts is rendered by the stream that is sent for it. -/
theorem renders_rendering (parts : List Choice) : Renders parts (rendering parts) := by
  induction parts with
  | nil => exact .mark (isData_space _) (by simp)
  | cons part parts ih =>
    refine .chunk part.isChunk_chunk (Json.readDocument_write part.isWhole_chunk) ?_
      (isData_space _) ih
    refine Text.trim_eq_self ?_ ?_
    · rintro c ⟨⟩
      decide
    · intro c hc
      rw [Choice.chunk, Json.write, List.getLast?_concat] at hc
      obtain rfl : '}' = c := by simpa using hc
      decide

theorem isOneLine_rendering (parts : List Choice) :
    ∀ line ∈ rendering parts, Text.IsOneLine line := by
  intro line hline
  rw [rendering, List.mem_append, List.mem_map, List.mem_singleton] at hline
  rcases hline with ⟨part, -, rfl⟩ | rfl
  · exact Text.isOneLine_append.mpr ⟨by simp [Text.isOneLine_nil], Json.isOneLine_write _⟩
  · simp [Text.isOneLine_nil, doneMark]

/-! ### A choice cut into parts -/

/-- Whether parts are the pieces into which a choice was cut: their texts make up its text, and the
reason for its end stands once, with the last text or after it. -/
structure MakesUp (parts : List Choice) (choice : Choice) : Prop where
  content : String.join (parts.filterMap Choice.content) = choice.content.getD ""
  finish : parts.filterMap Choice.finish = choice.finish.toList
  last : parts.Pairwise fun before after ↦ before.finish ≠ none → after.content = none

/-- The end that a reason reports, if it is an end before completion. -/
def abnormal? (reason : String) : Option Piece :=
  match StopReason.ofReport reason with
  | .complete => none
  | reason => some (.finished reason)

theorem Choice.pieces_eq (choice : Choice) :
    choice.pieces =
      choice.content.toList.map .delta ++ choice.finish.toList.filterMap abnormal? := by
  obtain ⟨content, finish⟩ := choice
  cases finish with
  | none => simp [Choice.pieces]
  | some reason =>
    cases hreason : StopReason.ofReport reason <;> simp [Choice.pieces, abnormal?, hreason]

/-- If no text comes after a reason, the pieces of parts are their texts and then their ends. -/
theorem flatMap_pieces {parts : List Choice}
    (h : parts.Pairwise fun before after ↦ before.finish ≠ none → after.content = none) :
    parts.flatMap Choice.pieces = (parts.filterMap Choice.content).map .delta ++
      (parts.filterMap Choice.finish).filterMap abnormal? := by
  induction h with
  | nil => rfl
  | @cons part parts hpart _ ih =>
    rw [List.flatMap_cons, Choice.pieces_eq, ih]
    cases hfinish : part.finish with
    | none => cases hcontent : part.content <;> simp [hcontent, hfinish]
    | some reason =>
      have hrest : parts.filterMap Choice.content = [] :=
        List.filterMap_eq_nil_iff.mpr fun other hother ↦ hpart other hother (by simp [hfinish])
      cases hcontent : part.content <;> cases hstop : abnormal? reason <;>
        simp [hcontent, hfinish, hrest, hstop]

/-- The ends that a closed stream reports if an answer stopped for a reason, or for none that is
known. -/
def ends : Option StopReason → List Piece
  | none | some .complete => [.finished .complete]
  | some reason => [.finished reason, .finished .complete]

theorem MakesUp.pieces {parts : List Choice} {choice : Choice} (h : MakesUp parts choice) :
    parts.flatMap Choice.pieces ++ [.finished .complete] =
      (parts.filterMap Choice.content).map .delta ++ ends (choice.finish.map .ofReport) := by
  rw [flatMap_pieces h.last, h.finish, List.append_assoc]
  cases choice.finish with
  | none => rfl
  | some reason =>
    cases hreason : StopReason.ofReport reason <;> simp [abnormal?, ends, hreason]

end Chat

/-! ### The two ways of asking -/

namespace Provider

variable {σ : Type} {provider : Provider} {transport : Transport σ} {request : Request}
  {outside outside' : σ}

/-- A whole answer is read from the value that the transport brings. -/
theorem outcome_complete {value : Json} {answer : Chat.Answer} {choice : Chat.Choice}
    {others : List Chat.Choice}
    (hpost : (transport.post (provider.call request false) outside).1.outcome = .ok value)
    (hanswer : Json.decodeValue Chat.Answer.decoder value = .ok answer)
    (hchoices : answer.choices = choice :: others) :
    (provider.complete transport request outside).1.outcome =
      .ok { model := answer.model, text := choice.content.getD ""
            stop := choice.finish.map .ofReport, usage := answer.usage } := by
  rw [complete, Consult.outcome_bind, hpost]
  simp only [Chat.readAnswer, hanswer, hchoices]
  rfl

/-- One choice is brought whole, and rendered as a stream in chunks that end anywhere between
characters. The deltas of the stream make up the text of the whole answer; then come the ends that
are reported for its reason to stop. -/
theorem stream_of_rendering {value : Json} {answer : Chat.Answer} {choice : Chat.Choice}
    {others parts : List Chat.Choice} {lines : List (List Char)} {chunks : List (List UInt8)}
    (hpost : (transport.post (provider.call request false) outside).1.outcome = .ok value)
    (hanswer : Json.decodeValue Chat.Answer.decoder value = .ok answer)
    (hchoices : answer.choices = choice :: others)
    (hpostStream : (transport.postStream (provider.call request true) outside').1.outcome =
      .ok (chunks.map .ok))
    (hbytes : chunks.flatten = encode (lines.flatMap (· ++ ['\n'])))
    (hwhole : ∀ chunk ∈ chunks, Text.IsWhole chunk) (hlines : ∀ line ∈ lines, '\n' ∉ line)
    (hrenders : Chat.Renders parts lines) (hparts : Chat.MakesUp parts choice) :
    ∃ completion deltas,
      (provider.complete transport request outside).1.outcome = .ok completion ∧
        (provider.stream transport request outside').1.outcome =
          .ok ((deltas.map .delta ++ Chat.ends completion.stop).map .ok) ∧
        String.join deltas = completion.text := by
  have htext : textPieces {} (lines.flatMap (· ++ ['\n'])) =
      (parts.filterMap Chat.Choice.content).map .delta ++
        Chat.ends (choice.finish.map .ofReport) := by
    rw [← hparts.pieces, ← hrenders.pieces, textPieces, LineBuffer.pushText, List.nil_append,
      Text.splitLines_lines hlines]
  refine ⟨_, parts.filterMap Chat.Choice.content, outcome_complete hpost hanswer hchoices, ?_,
    hparts.content⟩
  rw [outcome_stream hpostStream, readStream_eq, (Text.flatMap_decode_eq_iff hbytes).mpr hwhole,
    htext]

/-- An answer that was cut off, in three parts that arrive in two chunks. -/
theorem stream_of_rendering_in_parts :
    let parts : List Chat.Choice := [⟨"Hel", none⟩, ⟨"lo", none⟩, ⟨none, "length"⟩]
    let text := (Chat.rendering parts).flatMap (· ++ ['\n'])
    let chunks := [encode (text.take 50), encode (text.drop 50)]
    let value : Json := .obj [("model", .str "m"), ("choices", .arr [.obj
      [("message", .obj [("content", .str "Hello")]), ("finish_reason", .str "length")]])]
    let transport : Transport Unit := .constant value chunks
    ∃ completion deltas,
      (ollama.complete transport (.prompt "m" "hi") ()).1.outcome = .ok completion ∧
        (ollama.stream transport (.prompt "m" "hi") ()).1.outcome =
          .ok ((deltas.map .delta ++ Chat.ends completion.stop).map .ok) ∧
        String.join deltas = completion.text := by
  intro parts text chunks value transport
  have hanswer : Json.decodeValue Chat.Answer.decoder value =
      .ok ⟨"m", [⟨"Hello", "length"⟩], none⟩ := by decide +kernel
  refine stream_of_rendering rfl hanswer rfl rfl (by decide +kernel) ?_
    (fun line hline hmem ↦ (Chat.isOneLine_rendering parts line hline _ hmem).1 rfl)
    (Chat.renders_rendering parts) ⟨by decide +kernel, rfl, by simp [parts]⟩
  exact List.forall_mem_cons.mpr ⟨⟨_, rfl⟩, by simpa using ⟨_, rfl⟩⟩

/-- An answer that was cut off is whole with one reason to stop, and ends twice in a stream. The
second end says that it was complete. -/
theorem stream_of_truncated_answer :
    let text := (Chat.rendering [⟨"cut", "length"⟩]).flatMap (· ++ ['\n'])
    let value : Json := .obj [("model", .str "m"), ("choices", .arr [.obj
      [("message", .obj [("content", .str "cut")]), ("finish_reason", .str "length")]])]
    let transport : Transport Unit := .constant value [encode text]
    (ollama.complete transport (.prompt "m" "hi") ()).1.outcome =
        .ok { model := "m", text := "cut", stop := some .maxTokens } ∧
      (ollama.stream transport (.prompt "m" "hi") ()).1.outcome =
        .ok [.ok (.delta "cut"), .ok (.finished .maxTokens), .ok (.finished .complete)] := by
  decide +kernel

end Provider

end Errand.Model
