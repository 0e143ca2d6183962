/-!
# Reading bytes as text

Bytes are read as UTF-8 and nothing is refused: a sequence that is not well formed reads as one
replacement character for its longest start that could still have become a character, as Unicode
recommends.
-/

set_option autoImplicit false

namespace Errand.Text

/-- The character that stands for bytes that are not text. -/
def replacement : Char := '\uFFFD'

/-- For a lead byte: how many bytes follow, the smallest and the largest first follower, and the
bits that the lead byte contributes. A byte that cannot lead has none. -/
def leadByte (b : Nat) : Option (Nat × Nat × Nat × Nat) :=
  if b < 0x80 then some (0, 0, 0, b)
  else if b < 0xC2 then none
  else if b < 0xE0 then some (1, 0x80, 0xBF, b - 0xC0)
  else if b = 0xE0 then some (2, 0xA0, 0xBF, 0)
  else if b = 0xED then some (2, 0x80, 0x9F, 0xD)
  else if b < 0xF0 then some (2, 0x80, 0xBF, b - 0xE0)
  else if b = 0xF0 then some (3, 0x90, 0xBF, 0)
  else if b < 0xF4 then some (3, 0x80, 0xBF, b - 0xF0)
  else if b = 0xF4 then some (3, 0x80, 0x8F, 4)
  else none

/-- What is known of a character whose bytes are still arriving. -/
structure PartialChar where
  /-- The bits read so far. -/
  bits : Nat
  /-- How many bytes are missing. -/
  missing : Nat
  /-- The smallest byte that may come next. -/
  low : Nat
  /-- The largest byte that may come next. -/
  high : Nat
deriving DecidableEq, Repr

/-- Reads a byte that starts a character. -/
def beginChar (b : Nat) : List Char × Option PartialChar :=
  match leadByte b with
  | none => ([replacement], none)
  | some (0, _, _, bits) => ([Char.ofNat bits], none)
  | some (missing, low, high, bits) => ([], some { bits, missing, low, high })

/-- Reads one byte after what is known of an unfinished character. A byte that does not fit ends
that character as a replacement and starts another. -/
def readByte (pending : Option PartialChar) (b : Nat) : List Char × Option PartialChar :=
  match pending with
  | none => beginChar b
  | some p =>
    if p.low ≤ b ∧ b ≤ p.high then
      let bits := p.bits * 64 + (b - 0x80)
      if p.missing ≤ 1 then ([Char.ofNat bits], none)
      else ([], some { bits, missing := p.missing - 1, low := 0x80, high := 0xBF })
    else
      let (chars, next) := beginChar b
      (replacement :: chars, next)

/-- Reads bytes after what is known of an unfinished character. -/
def decodeFrom : Option PartialChar → List UInt8 → List Char
  | none, [] => []
  | some _, [] => [replacement]
  | pending, b :: bytes =>
    let (chars, next) := readByte pending b.toNat
    chars ++ decodeFrom next bytes

/-- The text that bytes stand for. -/
def decode (bytes : List UInt8) : List Char :=
  decodeFrom none bytes

/-- The bytes of a text in UTF-8. -/
def encode (text : List Char) : List UInt8 :=
  text.flatMap String.utf8EncodeChar

end Errand.Text
