import Errand.Proofs.Model.Rendering
import Errand.Proofs.Model.Speaking

/-!
# Texts that arrive as they were sent

A service sends texts one after another. Each one stands in a line of data, as the content of the
first choice of a chunk. Other lines may stand around them, and a mark closes the stream (`Sends`).
The bytes are cut anywhere between characters. `Binding.texts_arrive` says that every text arrives
as one delta of an answer, exactly as it was sent and in its place, and that one end follows. So the
answer of a solver is all the texts put together, and what it says aloud are the texts that are not
empty.

What the chunks look like is left to the service. A text may be escaped in any way that JSON has,
blanks may stand between tokens, and fields that nobody asks for may stand beside the others.
-/

set_option autoImplicit false

namespace Errand.Model

open Text (encode)

namespace Chat

/-! ### Streams of texts -/

/-- The texts that stand for a value, without blanks around them. A text that has numbers in it
which are not whole stands for the value that it is read as. -/
def StandsFor (data : List Char) (value : Json) : Prop :=
  Json.Spells data (.value value) ∨
    Text.trim data = data ∧
      Json.readDocument data = { root := .ofJson value, trailing := none }

/-- The lines of a closed stream that sends these texts. -/
inductive Sends : List String → List (List Char) → Prop
  /-- The mark that closes the stream. -/
  | mark {line : List Char} {lines : List (List Char)} (hline : IsData doneMark.toList line)
      (hlines : ∀ line ∈ lines, IsAside line) : Sends [] (line :: lines)
  /-- A blank line, a comment or any other line that holds no data. -/
  | aside {texts : List String} {line : List Char} {lines : List (List Char)}
      (hline : IsAside line) (hlines : Sends texts lines) : Sends texts (line :: lines)
  /-- A text. The chunk has no reason for an end, or one that tells of completion. -/
  | text {text : String} {texts : List String} {finish : Option String} {others : List Choice}
      {value : Json} {data line : List Char} {lines : List (List Char)}
      (hvalue : IsChunk (⟨some text, finish⟩ :: others) value)
      (hfinish : ∀ reason ∈ finish, StopReason.ofReport reason = .complete)
      (hdata : StandsFor data value) (hline : IsData data line) (hlines : Sends texts lines) :
      Sends (text :: texts) (line :: lines)

/-- An object that is spelled begins and ends with a brace. -/
theorem trim_of_spells {data : List Char} {fields : List (String × Json)}
    (h : Json.Spells data (.value (.obj fields))) : Text.trim data = data := by
  have hbraces : ∃ inner, data = '{' :: inner ++ ['}'] := by
    cases h with
    | @emptyObj blank => exact ⟨blank, rfl⟩
    | @obj before text => exact ⟨before ++ text, by simp⟩
  obtain ⟨inner, rfl⟩ := hbraces
  refine Text.trim_eq_self ?_ ?_
  · rintro c ⟨⟩
    decide
  · intro c hc
    rw [List.getLast?_concat] at hc
    obtain rfl := Option.some.inj hc
    decide

/-- A text that stands for a chunk is read as the chunk. -/
theorem StandsFor.read {choices : List Choice} {value : Json} {data : List Char}
    (h : StandsFor data value) (hvalue : IsChunk choices value) :
    Text.trim data = data ∧
      Json.readDocument data = { root := .ofJson value, trailing := none } := by
  rcases h with hspells | hread
  · obtain ⟨-, -, -⟩ := hvalue
    refine ⟨trim_of_spells hspells, ?_⟩
    simpa using Json.readDocument_of_spells Json.isBlank_nil Json.isBlank_nil hspells
  · exact hread

/-- A choice with a text that does not tell of an early end is one delta. -/
theorem Choice.pieces_of_complete {text : String} {finish : Option String}
    (h : ∀ reason ∈ finish, StopReason.ofReport reason = .complete) :
    (Choice.mk (some text) finish).pieces = [.delta text] := by
  cases finish with
  | none => rfl
  | some reason => simp [Choice.pieces, h reason rfl]

/-- A stream of texts is rendered from parts that hold one delta for each text. -/
theorem Sends.renders {texts : List String} {lines : List (List Char)} (h : Sends texts lines) :
    ∃ parts, Renders parts lines ∧ parts.flatMap Choice.pieces = texts.map .delta := by
  induction h with
  | mark hline hlines => exact ⟨[], .mark hline hlines, rfl⟩
  | aside hline _ ih =>
    obtain ⟨parts, hrenders, hpieces⟩ := ih
    exact ⟨parts, .aside hline hrenders, hpieces⟩
  | text hvalue hfinish hdata hline _ ih =>
    obtain ⟨parts, hrenders, hpieces⟩ := ih
    obtain ⟨htrim, hread⟩ := hdata.read hvalue
    refine ⟨_, .chunk hvalue hread htrim hline hrenders, ?_⟩
    simp [Choice.pieces_of_complete hfinish, hpieces]

/-- Texts that are sent one by one as they are written. -/
theorem sends_rendering (texts : List String) :
    Sends texts (rendering (texts.map fun text ↦ ⟨some text, none⟩)) := by
  induction texts with
  | nil => exact .mark (isData_space _) (by simp)
  | cons text texts ih =>
    refine .text (Choice.isChunk_chunk ⟨some text, none⟩) (by simp)
      (.inl (Json.spells_write _ (Choice.isWhole_chunk _))) (isData_space _) ih

end Chat

/-! ### What arrives -/

/-- The tokens among deltas are the texts that are not empty. -/
theorem gather_deltas (texts : List String) :
    gather ((texts.map Piece.delta ++ [Piece.finished .complete]).map .ok) =
      (texts.filter (· ≠ ""), none) := by
  induction texts with
  | nil => rfl
  | cons text texts ih =>
    rw [List.map_cons, List.cons_append, List.map_cons, gather, ih]
    by_cases htext : text = "" <;> simp [htext]

/-- Empty texts add nothing. -/
theorem join_filter_ne_empty (texts : List String) :
    String.join (texts.filter (· ≠ "")) = String.join texts := by
  induction texts with
  | nil => rfl
  | cons text texts ih =>
    by_cases htext : text = "" <;> simp_all [String.join_cons]

/-- The pieces that are read from a stream of texts, wherever it was cut between characters. -/
theorem readStream_of_sends {texts : List String} {lines : List (List Char)}
    {chunks : List (List UInt8)} (hsends : Chat.Sends texts lines)
    (hlines : ∀ line ∈ lines, '\n' ∉ line)
    (hbytes : chunks.flatten = encode (lines.flatMap (· ++ ['\n'])))
    (hwhole : ∀ chunk ∈ chunks, Text.IsWhole chunk) :
    readStream (chunks.map .ok) =
      (texts.map Piece.delta ++ [Piece.finished .complete]).map .ok := by
  obtain ⟨parts, hrenders, hpieces⟩ := hsends.renders
  rw [readStream_eq, (Text.flatMap_decode_eq_iff hbytes).mpr hwhole, textPieces,
    LineBuffer.pushText, List.nil_append, Text.splitLines_lines hlines, ← hpieces,
    ← hrenders.pieces]

/-- Texts are sent as a stream that is cut anywhere between characters. Whoever asks for an answer
piece by piece gets one delta for each text, with that text, and then one end, which tells of
completion. A solver answers with all the texts put together, and the tokens that it passes on are
the texts that are not empty. -/
theorem Binding.texts_arrive {σ : Type} {binding : Binding σ} {texts : List String}
    {lines : List (List Char)} {chunks : List (List UInt8)} (outside : σ)
    (hsilent : binding.transport.Silent) (hsends : Chat.Sends texts lines)
    (hlines : ∀ line ∈ lines, '\n' ∉ line)
    (hbytes : chunks.flatten = encode (lines.flatMap (· ++ ['\n'])))
    (hwhole : ∀ chunk ∈ chunks, Text.IsWhole chunk) :
    (∀ request : Request,
      (binding.transport.postStream (binding.provider.call request true) outside).1.outcome =
          .ok (chunks.map .ok) →
        (binding.provider.stream binding.transport request outside).1.outcome =
          .ok ((texts.map Piece.delta ++ [Piece.finished .complete]).map .ok)) ∧
    (∀ request : SolverRequest,
      (binding.transport.postStream (binding.provider.call
          (binding.request (Prompt.solver request.task request.lastResult)) true)
          outside).1.outcome = .ok (chunks.map .ok) →
        (solver binding request outside).1.outcome = .ok (String.join texts) ∧
          (solver binding request outside).1.tokens = texts.filter (· ≠ "")) := by
  have hread := readStream_of_sends hsends hlines hbytes hwhole
  constructor
  · intro request hpost
    rw [Provider.outcome_stream hpost, hread]
  · intro request hpost
    have hgather := gather_deltas texts
    rw [← hread] at hgather
    constructor
    · rw [solver, outcome_converse _ _ _ hpost hgather, join_filter_ne_empty]
    · exact tokens_converse _ _ _ hsilent hpost hgather

/-- A text with a quote, an accent and a line feed in it, an empty one, and one that begins with a
line separator and ends with a blank. A comment and a blank line stand around the first one, and the
stream is cut inside it. -/
theorem Binding.texts_arrive_between_asides :
    let first : Chat.Choice := ⟨some "a\"é\n", none⟩
    let others := Chat.rendering (["", "\u2028b "].map fun text ↦ ⟨some text, none⟩)
    let lines := ": ping".toList ::
      ("data:".toList ++ ([] ++ (Json.write first.chunk ++ ['\r']))) :: [] :: others
    let text := lines.flatMap (· ++ ['\n'])
    let chunks := [encode (text.take 60), encode (text.drop 60)]
    let binding : Binding Unit :=
      { transport := .constant .null chunks, provider := .ollama, model := "m" }
    (binding.provider.stream binding.transport (.prompt "m" "hi") ()).1.outcome =
        .ok [.ok (.delta "a\"é\n"), .ok (.delta ""), .ok (.delta "\u2028b "),
          .ok (.finished .complete)] ∧
      (solver binding ⟨"add", none⟩ ()).1.outcome = .ok "a\"é\n\u2028b " ∧
      (solver binding ⟨"add", none⟩ ()).1.tokens = ["a\"é\n", "\u2028b "] := by
  intro first others lines text chunks binding
  have hsilent : binding.transport.Silent :=
    ⟨fun _ ↦ Consult.silent_answer _, fun _ ↦ Consult.silent_answer _⟩
  have hcomment : Chat.IsAside ": ping".toList := by
    unfold Chat.IsAside
    decide
  have hblank : Chat.IsAside [] := by
    unfold Chat.IsAside
    decide
  have hfirst : Chat.StandsFor (Json.write first.chunk) first.chunk :=
    .inl (Json.spells_write _ first.isWhole_chunk)
  have hsends : Chat.Sends ["a\"é\n", "", "\u2028b "] lines :=
    .aside hcomment (.text first.isChunk_chunk (by simp) hfirst
      (.intro (List.forall_mem_nil _) (by simp [Text.isBlank])) (.aside hblank
        (Chat.sends_rendering _)))
  have hbytes : chunks.flatten = encode text := by decide +kernel
  have hwhole : ∀ chunk ∈ chunks, Text.IsWhole chunk :=
    List.forall_mem_cons.mpr ⟨⟨_, rfl⟩, by simpa using ⟨_, rfl⟩⟩
  obtain ⟨hstream, hsolver⟩ :=
    texts_arrive () hsilent hsends (by decide +kernel) hbytes hwhole
  obtain ⟨hanswer, htokens⟩ := hsolver ⟨"add", none⟩ rfl
  exact ⟨hstream _ rfl, hanswer, htokens⟩

end Errand.Model
