import Errand.Proofs.Model.Rendering

/-!
# Lines that are pieced together

A line may come in several chunks, and one chunk may complete several lines. `LineBuffer.pushAll`
takes in chunk after chunk and keeps what each of them completes. All together that is what the
texts of the chunks complete when they come as one (`pushAll_eq`), so nothing is lost between two
chunks and nothing is given out twice. `pushAll_payloads` says it in terms of the lines: the
payloads are those of the lines of data of the whole text, in their order, and the text after the
last line feed is still waiting.
-/

set_option autoImplicit false

namespace Errand.Model.LineBuffer

open Text (decode encode)

/-- The payload of a line of data is the text after `data:`, without blanks at its ends. Other lines
have none. -/
theorem payload?_eq (line : List Char) :
    payload? line =
      if "data:".toList <+: line then some (Text.trim (line.drop 5)) else none := by
  split
  · next hdata =>
    obtain ⟨rest, rfl⟩ := hdata
    have hcolon : ∀ c ∈ "data:".toList.getLast?, Text.isBlank c = false := by
      intro c hc
      obtain rfl : ':' = c := by simpa using hc
      decide
    have hend : Text.trimEnd ("data:".toList ++ rest) = "data:".toList ++ Text.trimEnd rest :=
      Text.dropEndWhile_append_of_getLast? hcolon rest
    rw [payload?, hend, Chat.stripFront_append, Option.map_some]
    exact congrArg some (Text.dropWhile_dropEndWhile Text.isBlank rest)
  · next hdata => exact Chat.IsAside.payload hdata

/-- The payloads of lines are those of the lines of data among them. -/
theorem filterMap_payload? (lines : List (List Char)) :
    lines.filterMap payload? =
      (lines.filter ("data:".toList <+: ·)).map fun line ↦ Text.trim (line.drop 5) := by
  induction lines with
  | nil => rfl
  | cons line lines ih =>
    by_cases hdata : "data:".toList <+: line
    · rw [List.filterMap_cons_some (by rw [payload?_eq, if_pos hdata]),
        List.filter_cons_of_pos (by simpa using hdata), List.map_cons, ih]
    · rw [List.filterMap_cons_none (by rw [payload?_eq, if_neg hdata]),
        List.filter_cons_of_neg (by simpa using hdata), ih]

/-- Takes in chunks one after another; gives the payloads that each of them completes. -/
def pushAll (buffer : LineBuffer) : List (List UInt8) → List (List (List Char)) × LineBuffer
  | [] => ([], buffer)
  | chunk :: chunks =>
    let (payloads, next) := buffer.push chunk
    let (later, last) := next.pushAll chunks
    (payloads :: later, last)

/-- Chunks that come one after another complete what their texts complete as one. -/
theorem pushAll_eq {buffer : LineBuffer} (h : '\n' ∉ buffer.pending) (chunks : List (List UInt8)) :
    ((buffer.pushAll chunks).1.flatten, (buffer.pushAll chunks).2) =
      buffer.pushText (chunks.flatMap decode) := by
  induction chunks generalizing buffer with
  | nil =>
    rw [List.flatMap_nil, pushText_nil h]
    rfl
  | cons chunk chunks ih =>
    have hrest := ih (buffer.notMem_pending_pushText (decode chunk))
    rw [List.flatMap_cons, pushText_append, ← hrest]
    rfl

/-- Chunks are taken in by a buffer that is empty at first. After each of them no line feed is
waiting. The text that they are read as one by one consists of lines, each with its line feed, and
of what is waiting in the end. The chunks gave the payloads of the lines that begin with `data:`,
each once and in order; a payload is what follows `data:`, without blanks at its ends. -/
theorem pushAll_payloads (chunks : List (List UInt8)) :
    let text := chunks.flatMap decode
    let pushed := ({} : LineBuffer).pushAll chunks
    (∀ n, '\n' ∉ (({} : LineBuffer).pushAll (chunks.take n)).2.pending) ∧
      ∃ lines : List (List Char), (∀ line ∈ lines, '\n' ∉ line) ∧
        text = lines.flatMap (· ++ ['\n']) ++ pushed.2.pending ∧
        pushed.1.flatten =
          (lines.filter ("data:".toList <+: ·)).map fun line ↦ Text.trim (line.drop 5) := by
  intro text pushed
  have hempty : '\n' ∉ ({} : LineBuffer).pending := List.not_mem_nil
  have hpushed : (pushed.1.flatten, pushed.2) = ({} : LineBuffer).pushText text :=
    pushAll_eq hempty chunks
  refine ⟨fun n ↦ ?_, (Text.splitLines text).1, Text.notMem_of_mem_splitLines text, ?_, ?_⟩
  · have hfront := congrArg Prod.snd (pushAll_eq hempty (chunks.take n))
    dsimp only at hfront
    rw [hfront]
    exact notMem_pending_pushText _ _
  · have hpending : pushed.2.pending = (Text.splitLines text).2 :=
      congrArg (·.2.pending) hpushed
    rw [hpending, Text.splitLines_join]
  · have hpayloads : pushed.1.flatten = (Text.splitLines text).1.filterMap payload? :=
      congrArg Prod.fst hpushed
    rw [hpayloads, filterMap_payload?]

/-- A comment, and data whose line is broken off. -/
example :
    ({} : LineBuffer).pushAll (["data: a\n: b\ndata:c", "d \r", "\ndata", ": e"].map
        fun text : String ↦ encode text.toList) =
      ([["a".toList], [], ["cd".toList], []], { pending := "data: e".toList }) := by
  decide +kernel

end Errand.Model.LineBuffer
