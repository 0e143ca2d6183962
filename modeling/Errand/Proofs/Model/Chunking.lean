import Errand.Model.Provider
import Errand.Proofs.Text.Lines
import Errand.Proofs.Text.Utf8

/-!
# Answers that arrive in chunks

A buffer takes in one text after another as it would take in all of them at once
(`pushText_append`), so the pieces of an answer are those of the text that its chunks are read as
(`readStream_eq`). Each chunk is read on its own. Where no chunk breaks off inside a character, that
is the text which was sent, and it does not matter where the chunks end (`stream_of_whole`). A
chunk that breaks off inside a character spoils it (`stream_of_broken_character`).
-/

set_option autoImplicit false

namespace Errand.Model

open Text (encode decode IsWhole)

namespace LineBuffer

theorem notMem_pending_pushText (buffer : LineBuffer) (text : List Char) :
    '\n' ∉ (buffer.pushText text).2.pending :=
  Text.notMem_splitLines (buffer.pending ++ text)

theorem pushText_nil {buffer : LineBuffer} (h : '\n' ∉ buffer.pending) :
    buffer.pushText [] = ([], buffer) := by
  rw [pushText, List.append_nil, Text.splitLines_of_notMem h]
  rfl

/-- Two texts complete the lines that they complete together. -/
theorem pushText_append (buffer : LineBuffer) (front back : List Char) :
    buffer.pushText (front ++ back) =
      ((buffer.pushText front).1 ++ ((buffer.pushText front).2.pushText back).1,
        ((buffer.pushText front).2.pushText back).2) := by
  simp only [pushText, ← List.append_assoc, Text.splitLines_append (buffer.pending ++ front) back,
    List.filterMap_append]

end LineBuffer

/-- The pieces of an answer that complete lines of a text hold. -/
def textPieces (buffer : LineBuffer) (text : List Char) : List Piece :=
  (buffer.pushText text).1.flatMap Chat.readData

/-- Chunks hold the pieces of the text that they are read as one by one. -/
theorem readChunks_eq {buffer : LineBuffer} (h : '\n' ∉ buffer.pending)
    (chunks : List (List UInt8)) :
    readChunks buffer (chunks.map .ok) = (textPieces buffer (chunks.flatMap decode)).map .ok := by
  induction chunks generalizing buffer with
  | nil =>
    rw [List.flatMap_nil, textPieces, LineBuffer.pushText_nil h]
    rfl
  | cons chunk chunks ih =>
    have hrest := ih (buffer.notMem_pending_pushText (decode chunk))
    rw [List.flatMap_cons, textPieces, LineBuffer.pushText_append, List.flatMap_append,
      List.map_append, ← textPieces, ← textPieces, ← hrest]
    rfl

theorem readStream_eq (chunks : List (List UInt8)) :
    readStream (chunks.map .ok) = (textPieces {} (chunks.flatMap decode)).map .ok :=
  readChunks_eq (by simp) chunks

/-! ### Where chunks end -/

section Provider

variable {σ : Type}

/-- An answer that is asked for piece by piece is read from the chunks that the transport brings. -/
theorem Provider.outcome_stream {provider : Provider} {transport : Transport σ} {request : Request}
    {outside : σ} {chunks : List Chunk}
    (h : (transport.postStream (provider.call request true) outside).1.outcome = .ok chunks) :
    (provider.stream transport request outside).1.outcome = .ok (readStream chunks) := by
  change (Consult.andThen _ _ outside).1.outcome = _
  simp only [Consult.andThen, h]
  rfl

/-- One answer is brought in chunks in two ways, by two transports to one provider. If no chunk
breaks off inside a character, then the pieces of the answer are the same, wherever the chunks end.
-/
theorem Provider.stream_of_whole {provider : Provider} {request : Request}
    {one other : Transport σ} {outside outside' : σ} {text : List Char}
    {chunks chunks' : List (List UInt8)}
    (hone : (one.postStream (provider.call request true) outside).1.outcome =
      .ok (chunks.map .ok))
    (hother : (other.postStream (provider.call request true) outside').1.outcome =
      .ok (chunks'.map .ok))
    (hbytes : chunks.flatten = encode text) (hbytes' : chunks'.flatten = encode text)
    (hwhole : ∀ chunk ∈ chunks, IsWhole chunk) (hwhole' : ∀ chunk ∈ chunks', IsWhole chunk) :
    (provider.stream one request outside).1.outcome =
      (provider.stream other request outside').1.outcome := by
  rw [outcome_stream hone, outcome_stream hother, readStream_eq, readStream_eq,
    (Text.flatMap_decode_eq_iff hbytes).mpr hwhole,
    (Text.flatMap_decode_eq_iff hbytes').mpr hwhole']

/-- A transport on which every call is answered alike. -/
def Transport.constant (value : Json) (chunks : List (List UInt8)) : Transport σ where
  post _ := .succeed value
  postStream _ := .succeed (chunks.map .ok)

/-- The text of a stream that holds one piece of an answer. -/
def deltaLine (piece : String) : List Char :=
  "data: \x7b\"choices\":[\x7b\"delta\":\x7b\"content\":".toList ++
    Json.write (.str piece) ++ "\x7d\x7d]\x7d\n".toList

/-- An answer that is brought at once, or in chunks of which the second begins with a character of
two bytes. -/
theorem Provider.stream_of_whole_character :
    let text := deltaLine "é"
    let chunks := [encode (text.take 39), encode (text.drop 39)]
    chunks.flatten = encode text ∧
      (Provider.ollama.stream (.constant .null chunks) (.prompt "m" "hi") ()).1.outcome =
        (Provider.ollama.stream (.constant .null [encode text])
          (.prompt "m" "hi") ()).1.outcome := by
  intro text chunks
  have hbytes : chunks.flatten = encode text := by decide +kernel
  refine ⟨hbytes, stream_of_whole rfl rfl hbytes (by simp) ?_ ?_⟩
  · exact List.forall_mem_cons.mpr ⟨⟨_, rfl⟩, by simpa using ⟨_, rfl⟩⟩
  · simpa using ⟨text, rfl⟩

/-- If a chunk breaks off inside a character, replacements are read in its place. -/
theorem Provider.stream_of_broken_character :
    let bytes := encode (deltaLine "é")
    let chunks := [bytes.take 40, bytes.drop 40]
    chunks.flatten = bytes ∧
      (Provider.ollama.stream (.constant .null [bytes]) (.prompt "m" "hi") ()).1.outcome =
        .ok [.ok (.delta "é")] ∧
      (Provider.ollama.stream (.constant .null chunks) (.prompt "m" "hi") ()).1.outcome =
        .ok [.ok (.delta "\uFFFD\uFFFD")] := by
  decide +kernel

end Provider

end Errand.Model
