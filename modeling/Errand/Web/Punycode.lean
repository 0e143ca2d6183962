/-!
# Names in ASCII

A name with letters beyond ASCII is also written with ASCII alone: first its ASCII characters and,
if there are any, a hyphen; then, in ascending order of the other characters, how many steps lead
from one insertion to the next. A step moves one place on in the name, and from its end to the first
place with the next character. The counts are written in digits of 36 values, the least significant
first, with thresholds that adapt to the size of earlier counts: a digit below its threshold ends a
count.
-/

set_option autoImplicit false

namespace Errand.Web.Punycode

/-- A digit: the letters count from zero, the numerals from 26. -/
def digit (n : Nat) : Char :=
  if n < 26 then Char.ofNat ('a'.toNat + n) else Char.ofNat ('0'.toNat + (n - 26))

/-- The value of a digit. -/
def digitValue? (c : Char) : Option Nat :=
  if 'a' ≤ c ∧ c ≤ 'z' then some (c.toNat - 'a'.toNat)
  else if 'A' ≤ c ∧ c ≤ 'Z' then some (c.toNat - 'A'.toNat)
  else if c.isDigit then some (c.toNat - '0'.toNat + 26)
  else none

/-- The threshold at a place of a count; places go in steps of 36. -/
def threshold (place bias : Nat) : Nat :=
  min 26 (max 1 (place - bias))

/-- The number of places by which thresholds move for counts of a size, and what is left of it;
`fuel` bounds the divisions. -/
def scale : (fuel : Nat) → Nat → Nat → Nat × Nat
  | 0, size, places => (size, places)
  | fuel + 1, size, places =>
    if 455 < size then scale fuel (size / 35) (places + 36) else (size, places)

/-- The bias after a count. -/
def adapt (count length : Nat) (first : Bool) : Nat :=
  let size := if first then count / 700 else count / 2
  let (size, places) := scale (size + 1) (size + size / length) 0
  places + 36 * size / (size + 38)

/-- The digits of a count; `fuel` bounds their number. -/
def digits (bias : Nat) : (fuel : Nat) → (place count : Nat) → List Char
  | 0, _, _ => []
  | fuel + 1, place, count =>
    let t := threshold place bias
    if count < t then [digit count]
    else
      digit (t + (count - t) % (36 - t)) ::
        digits bias fuel (place + 36) ((count - t) / (36 - t))

/-- A name that is being written. -/
structure Writing where
  /-- The digits so far. -/
  written : List Char
  /-- The steps since the last insertion. -/
  steps : Nat
  /-- The bias. -/
  bias : Nat
  /-- How many characters are in place. -/
  placed : Nat
  /-- Whether nothing has been inserted yet. -/
  first : Bool

/-- Passes a character of the name while those with code `code` are inserted. -/
def pass (code : Nat) (w : Writing) (c : Char) : Writing :=
  if c.toNat < code then { w with steps := w.steps + 1 }
  else if c.toNat = code then
    { written := w.written ++ digits w.bias (w.steps + 1) 36 w.steps, steps := 0
      bias := adapt w.steps (w.placed + 1) w.first, placed := w.placed + 1, first := false }
  else w

/-- Inserts the characters with the given codes, which ascend. -/
def insertAll (name : List Char) : List Nat → (next : Nat) → Writing → Writing
  | [], _, w => w
  | code :: codes, next, w =>
    let w := { w with steps := w.steps + (code - next) * (w.placed + 1) }
    let w := name.foldl (pass code) w
    insertAll name codes (code + 1) { w with steps := w.steps + 1 }

/-- A name in ASCII. -/
def encode (name : List Char) : List Char :=
  let plain := name.filter (·.toNat < 0x80)
  let codes := ((name.filter (0x80 ≤ ·.toNat)).map Char.toNat).eraseDups.mergeSort (· ≤ ·)
  let start : Writing :=
    { written := [], steps := 0, bias := 72, placed := plain.length, first := true }
  plain ++ (if plain.isEmpty then [] else ['-']) ++ (insertAll name codes 0x80 start).written

/-- Reads a count: the value, and what follows it. -/
def count? (bias : Nat) : List Char → (place weight value : Nat) → Option (Nat × List Char)
  | [], _, _, _ => none
  | c :: rest, place, weight, value => do
    let d ← digitValue? c
    let value := value + d * weight
    let t := threshold place bias
    if d < t then return (value, rest)
    else count? bias rest (place + 36) (weight * (36 - t)) value

/-- Inserts characters by the counts of a text; `fuel` bounds their number. -/
def readInto (fuel : Nat) (bias code position : Nat) (name : List Char) (first : Bool)
    (text : List Char) : Option (List Char) :=
  match fuel, text with
  | _, [] => some name
  | 0, _ => none
  | fuel + 1, text => do
    let (steps, rest) ← count? bias text 36 1 0
    let length := name.length + 1
    let code := code + (position + steps) / length
    let position := (position + steps) % length
    if 0x10FFFF < code ∨ (0xD800 ≤ code ∧ code ≤ 0xDFFF) then none
    else
      readInto fuel (adapt steps length first) code (position + 1)
        (name.take position ++ Char.ofNat code :: name.drop position) false rest

/-- The name that a text in ASCII stands for. -/
def decode? (text : List Char) : Option (List Char) :=
  let tail := (text.reverse.takeWhile (· != '-')).reverse
  let plain := text.take (text.length - tail.length - 1)
  readInto text.length 72 0x80 0 plain true tail

end Errand.Web.Punycode
