import Errand.Fault
import Errand.Model.Chat
import Errand.Text.Search
import Errand.Text.Utf8

/-!
# Reading a stream of data lines

A stream arrives as chunks of bytes, which may end anywhere. Each chunk is read as text on its own;
a line is complete when its line feed has arrived. Only lines that start with `data:` count, and
what follows is their payload. A chunk may also be a fault of the way it came; what comes after it
is read as if nothing had happened.
-/

set_option autoImplicit false

namespace Errand.Model

/-- The text after the last complete line. -/
structure LineBuffer where
  /-- The text. -/
  pending : List Char := []
deriving DecidableEq, Repr

namespace LineBuffer

/-- The payload of a line, if it is a line of data. -/
def payload? (line : List Char) : Option (List Char) :=
  (Text.stripFront "data:".toList (Text.trimEnd line)).map Text.trimStart

/-- Takes in the text of a chunk; gives the payloads of the lines that it completes. -/
def pushText (buffer : LineBuffer) (text : List Char) : List (List Char) × LineBuffer :=
  let (lines, pending) := Text.splitLines (buffer.pending ++ text)
  (lines.filterMap payload?, { pending })

/-- Takes in a chunk. -/
def push (buffer : LineBuffer) (chunk : List UInt8) : List (List Char) × LineBuffer :=
  buffer.pushText (Text.decode chunk)

end LineBuffer

/-- A chunk of a stream, or the fault that came in its place. -/
abbrev Chunk := Except Fault (List UInt8)

/-- The pieces of an answer that chunks hold, given the text that is still waiting. -/
def readChunks (buffer : LineBuffer) : List Chunk → List (Except Fault Piece)
  | [] => []
  | .error fault :: rest => .error fault :: readChunks buffer rest
  | .ok chunk :: rest =>
    let (payloads, buffer) := buffer.push chunk
    (payloads.flatMap Chat.readData).map .ok ++ readChunks buffer rest

/-- The pieces of an answer that a stream holds. -/
def readStream (chunks : List Chunk) : List (Except Fault Piece) :=
  readChunks {} chunks

end Errand.Model
