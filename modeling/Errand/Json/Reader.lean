import Errand.Json.Source

/-!
# Reading JSON text

The grammar of JSON over a list of characters. A string is read twice, once by who wants its text
and once by who only looks for its end; the second accepts escapes that stand for no character. A
number takes digits into its significand for as long as 64 bits hold them; a digit of the whole part
that is left out counts as a power of ten, and digits of the fraction are dropped from the first one
that does not fit.
-/

set_option autoImplicit false

namespace Errand.Json

/-- A blank between tokens. -/
def isSpace (c : Char) : Bool :=
  c = ' ' || c = '\n' || c = '\t' || c = '\r'

/-- The text from its first token on. -/
def skipSpace (text : List Char) : List Char :=
  text.dropWhile isSpace

/-- The value of a hexadecimal digit. -/
def hexValue? (c : Char) : Option Nat :=
  if '0' ≤ c ∧ c ≤ '9' then some (c.toNat - '0'.toNat)
  else if 'a' ≤ c ∧ c ≤ 'f' then some (c.toNat - 'a'.toNat + 10)
  else if 'A' ≤ c ∧ c ≤ 'F' then some (c.toNat - 'A'.toNat + 10)
  else none

/-- The number that four hexadecimal digits stand for. A text of fewer than four bytes ends too
early, whatever stands there. -/
def readHex (text : List Char) : Except Flaw (Nat × List Char) :=
  match text with
  | a :: b :: c :: d :: rest =>
    match hexValue? a, hexValue? b, hexValue? c, hexValue? d with
    | some a, some b, some c, some d => .ok (((a * 16 + b) * 16 + c) * 16 + d, rest)
    | _, _, _, _ => .error .malformed
  | few =>
    if (String.ofList few).utf8ByteSize < 4 then .error .truncated else .error .malformed

/-- The character of a one-letter escape. -/
def simpleEscape? : Char → Option Char
  | '"' => some '"'
  | '\\' => some '\\'
  | '/' => some '/'
  | 'b' => some '\x08'
  | 'f' => some '\x0c'
  | 'n' => some '\n'
  | 'r' => some '\r'
  | 't' => some '\t'
  | _ => none

/-- The low half of a pair of escapes, after the high half. -/
def readLowHalf (high : Nat) (text : List Char) : Except Flaw (Char × List Char) :=
  match text with
  | [] | ['\\'] => .error .truncated
  | '\\' :: 'u' :: rest => do
    let (low, rest) ← readHex rest
    if 0xDC00 ≤ low ∧ low ≤ 0xDFFF then
      .ok (Char.ofNat (0x10000 + (high - 0xD800) * 0x400 + (low - 0xDC00)), rest)
    else .error .malformed
  | _ => .error .malformed

/-- The character of a `\u` escape, from its digits on. -/
def readUnicode (text : List Char) : Except Flaw (Char × List Char) := do
  let (n, rest) ← readHex text
  if 0xDC00 ≤ n ∧ n ≤ 0xDFFF then .error .malformed
  else if 0xD800 ≤ n ∧ n ≤ 0xDBFF then readLowHalf n rest
  else .ok (Char.ofNat n, rest)

/-- The characters of a string, from after its opening quote to its closing one. Every step takes a
character of the text, so `fuel` need not exceed its length. -/
def decodeString : (fuel : Nat) → List Char → Except Flaw (List Char)
  | 0, _ => .error .truncated
  | _, [] => .error .truncated
  | fuel + 1, c :: text =>
    if c = '"' then .ok []
    else if c = '\\' then
      match text with
      | [] => .error .truncated
      | 'u' :: digits => do
        let (char, rest) ← readUnicode digits
        let chars ← decodeString fuel rest
        return char :: chars
      | e :: rest =>
        match simpleEscape? e with
        | none => .error .malformed
        | some char => do
          let chars ← decodeString fuel rest
          return char :: chars
    else if c.toNat < 0x20 then .error .malformed
    else do
      let chars ← decodeString fuel text
      return c :: chars

/-- The text after the closing quote of a string that is only skipped. -/
def skipString : (fuel : Nat) → List Char → Except Flaw (List Char)
  | 0, _ => .error .truncated
  | _, [] => .error .truncated
  | fuel + 1, c :: text =>
    if c = '"' then .ok text
    else if c = '\\' then
      match text with
      | [] => .error .truncated
      | 'u' :: digits => do
        let (_, rest) ← readHex digits
        skipString fuel rest
      | e :: rest =>
        match simpleEscape? e with
        | none => .error .malformed
        | some _ => skipString fuel rest
    else if c.toNat < 0x20 then .error .malformed
    else skipString fuel text

/-- A string of the text, from after its opening quote on, and the text after it; `fuel` has to
exceed the length of the text. -/
def readLiteral (fuel : Nat) (text : List Char) : Literal × Option (List Char) :=
  let decoded := (decodeString fuel text).map String.ofList
  match skipString fuel text with
  | .ok rest => ({ decoded }, some rest)
  | .error flaw => ({ decoded, skipped := some flaw }, none)

/-! ### Numbers -/

/-- The greatest significand. -/
def maxSignificand : Nat := Nat.pow 2 64 - 1

/-- Digits of the whole part after a significand: the significand, and how many digits it could not
hold. -/
def takeWhole (significand : Nat) : List Char → Nat × Nat
  | [] => (significand, 0)
  | c :: digits =>
    let next := significand * 10 + (c.toNat - '0'.toNat)
    if next ≤ maxSignificand then takeWhole next digits else (significand, digits.length + 1)

/-- Digits of the fraction after a significand: the significand, and how many digits it took. -/
def takeFraction (significand : Nat) : List Char → Nat × Nat
  | [] => (significand, 0)
  | c :: digits =>
    let next := significand * 10 + (c.toNat - '0'.toNat)
    if next ≤ maxSignificand then
      let (significand, taken) := takeFraction next digits
      (significand, taken + 1)
    else (significand, 0)

/-- The number that digits stand for. -/
def digitsValue (digits : List Char) : Nat :=
  digits.foldl (fun n c => n * 10 + (c.toNat - '0'.toNat)) 0

/-- A number literal, in parts. -/
structure NumberText where
  /-- Whether it begins with a minus sign. -/
  negative : Bool
  /-- The digits of the whole part. -/
  whole : List Char
  /-- The digits of the fraction, if there is a point. -/
  fraction : Option (List Char)
  /-- The exponent, if there is one. -/
  exponent : Option Int
deriving Repr

/-- The value of a number literal; none if it is beyond all numbers. -/
def NumberText.value (t : NumberText) : Option Number :=
  let (significand, left) := takeWhole 0 t.whole
  if t.fraction = none ∧ t.exponent = none ∧ left = 0 then
    if !t.negative then some (.int significand)
    else if 0 < significand ∧ significand ≤ Nat.pow 2 63 then some (.int (-significand))
    else (Errand.Number.ofDecimal true significand 0).map .real
  else
    let (significand, taken) := takeFraction significand (t.fraction.getD [])
    let exponent : Int := left - taken + t.exponent.getD 0
    (Errand.Number.ofDecimal t.negative significand exponent).map .real

/-- The exponent of a number, from after its letter on. -/
def readExponent (text : List Char) : Except Flaw (Int × List Char) :=
  let (negative, digits) := match text with
    | '+' :: rest => (false, rest)
    | '-' :: rest => (true, rest)
    | rest => (false, rest)
  match digits.span Char.isDigit with
  | ([], []) => .error .truncated
  | ([], _) => .error .malformed
  | (ds, rest) =>
    let size : Int := digitsValue ds
    .ok (if negative then -size else size, rest)

/-- The exponent of a number, if there is one. -/
def readExponent? (text : List Char) : Except Flaw (Option Int × List Char) :=
  match text with
  | 'e' :: rest | 'E' :: rest => do
    let (exponent, rest) ← readExponent rest
    return (some exponent, rest)
  | rest => .ok (none, rest)

/-- The fraction of a number, if there is one. -/
def readFraction? (text : List Char) : Except Flaw (Option (List Char) × List Char) :=
  match text with
  | '.' :: rest =>
    match rest.span Char.isDigit with
    | ([], []) => .error .truncated
    | ([], _) => .error .malformed
    | (digits, rest) => .ok (some digits, rest)
  | rest => .ok (none, rest)

/-- A number literal at the start of a text. A whole part of several digits does not begin with
zero. -/
def readNumber (text : List Char) : Except Flaw (NumberText × List Char) := do
  let (negative, digits) := match text with
    | '-' :: rest => (true, rest)
    | rest => (false, rest)
  let (whole, rest) ← match digits.span Char.isDigit with
    | ([], []) => .error Flaw.truncated
    | ([], _) => .error Flaw.malformed
    | ('0' :: _ :: _, _) => .error Flaw.malformed
    | (whole, rest) => .ok (whole, rest)
  let (fraction, rest) ← readFraction? rest
  let (exponent, rest) ← readExponent? rest
  return ({ negative, whole, fraction, exponent }, rest)

/-! ### Values -/

/-- The rest of a text that begins with a word. -/
def readWord : List Char → List Char → Except Flaw (List Char)
  | [], text => .ok text
  | _ :: _, [] => .error .truncated
  | c :: word, d :: text => if c = d then readWord word text else .error .malformed

/-- A word of the text that stands for a value. -/
def readNamed (value : Source) (word text : List Char) : Source × Option (List Char) :=
  match readWord word text with
  | .ok rest => (value, some rest)
  | .error flaw => (.broken flaw flaw .malformed, none)

/-- What stands instead of a value. -/
def noValue (text : List Char) : Flaw :=
  if text.isEmpty then .truncated else .malformed

/-- A field that the text ends before. -/
def missingField : Literal × Source :=
  ({ decoded := .error .truncated, skipped := some .truncated },
    .broken .truncated .truncated .truncated)

mutual

/-- The value at the start of a text and, unless a flaw stops the reader, the text after it. -/
def readValue : (fuel : Nat) → List Char → Source × Option (List Char)
  | 0, _ => (.broken .truncated .truncated .truncated, none)
  | fuel + 1, text =>
    match skipSpace text with
    | 'n' :: rest => readNamed .null ['u', 'l', 'l'] rest
    | 't' :: rest => readNamed (.bool true) ['r', 'u', 'e'] rest
    | 'f' :: rest => readNamed (.bool false) ['a', 'l', 's', 'e'] rest
    | '"' :: rest =>
      let (literal, rest) := readLiteral fuel rest
      (.str literal, rest)
    | '[' :: rest =>
      match skipSpace rest with
      | ']' :: rest => (.arr [] none, some rest)
      | [] => (.arr [] (some .truncated), none)
      | rest =>
        let (items, ending, rest) := readItems fuel rest
        (.arr items ending, rest)
    | '{' :: rest =>
      match skipSpace rest with
      | '}' :: rest => (.obj [] none, some rest)
      | rest =>
        let (fields, ending, rest) := readFields fuel rest
        (.obj fields ending, rest)
    | text =>
      match text with
      | [] => (.broken .truncated .truncated .truncated, none)
      | c :: _ =>
        if c = '-' ∨ c.isDigit then
          match readNumber text with
          | .ok (number, rest) => (.num number.value, some rest)
          | .error flaw => (.broken flaw .malformed .malformed, none)
        else (.broken .malformed .malformed .malformed, none)

/-- The items of an array from one of them on, what stands instead of its closing bracket, and the
text after it. A comma before the end of the text announces an item that is missing. -/
def readItems : (fuel : Nat) → List Char → List Source × Option Flaw × Option (List Char)
  | 0, _ => ([], some .truncated, none)
  | fuel + 1, text =>
    match readValue fuel text with
    | (item, none) => ([item], some .truncated, none)
    | (item, some rest) =>
      match skipSpace rest with
      | ']' :: rest => ([item], none, some rest)
      | ',' :: rest =>
        match skipSpace rest with
        | [] =>
          ([item, .broken .truncated .truncated .truncated], some .truncated, none)
        | ']' :: _ => ([item], some .malformed, none)
        | rest =>
          let (items, ending, rest) := readItems fuel rest
          (item :: items, ending, rest)
      | rest => ([item], some (noValue rest), none)

/-- The fields of an object from one of them on, what stands instead of its closing brace, and the
text after it. A comma before the end of the text announces a field that is missing. -/
def readFields :
    (fuel : Nat) → List Char → List (Literal × Source) × Option Flaw × Option (List Char)
  | 0, _ => ([], some .truncated, none)
  | fuel + 1, text =>
    match text with
    | '"' :: rest =>
      match readLiteral fuel rest with
      | (key, none) => ([(key, .null)], some .truncated, none)
      | (key, some rest) =>
        match skipSpace rest with
        | ':' :: rest =>
          match readValue fuel rest with
          | (value, none) => ([(key, value)], some .truncated, none)
          | (value, some rest) =>
            match skipSpace rest with
            | '}' :: rest => ([(key, value)], none, some rest)
            | ',' :: rest =>
              match skipSpace rest with
              | [] => ([(key, value), missingField], some .truncated, none)
              | rest =>
                let (fields, ending, rest) := readFields fuel rest
                ((key, value) :: fields, ending, rest)
            | rest => ([(key, value)], some (noValue rest), none)
        | rest =>
          let flaw := noValue rest
          ([(key, .broken flaw flaw flaw)], some flaw, none)
    | rest => ([], some (noValue rest), none)

end

/-- A whole text: its value as it is read, and what a reader finds who comes to the end of it. -/
structure Document where
  /-- The value. -/
  root : Source
  /-- The flaw after the value. -/
  trailing : Option Flaw

/-- Reads a whole text. -/
def readDocument (text : List Char) : Document :=
  match readValue (2 * text.length + 4) text with
  | (root, none) => { root, trailing := none }
  | (root, some rest) =>
    { root, trailing := if (skipSpace rest).isEmpty then none else some .malformed }

/-- The value of a whole text. -/
def read (text : List Char) : Except Flaw Json := do
  let document := readDocument text
  let value ← document.root.toJson 0
  match document.trailing with
  | none => return value
  | some flaw => .error flaw

/-- The value of a whole text. -/
def parse (text : String) : Except Flaw Json :=
  read text.toList

end Errand.Json
