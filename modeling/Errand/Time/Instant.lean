import Errand.Time.Calendar
import Errand.Text.Blank

/-!
# Instants

An instant is a point of time in UTC, to the nanosecond. A leap second is kept as nanoseconds
beyond the last second of its minute, so that it follows that second and precedes the next minute.
Instants are written as in RFC 3339, with as many groups of three fraction digits as needed, and
read with some tolerance: blanks before most parts, one-digit fields, a space for the `T`, and an
offset with or without its colon.
-/

set_option autoImplicit false

namespace Errand.Time

/-- A point of time. -/
structure Instant where
  /-- Seconds from the start of 1970. -/
  seconds : Int
  /-- Nanoseconds of the second; a leap second has a second's worth more. -/
  nanos : Nat
deriving DecidableEq, Repr, Inhabited

namespace Instant

/-- Whether an instant is not later than another. -/
def le (a b : Instant) : Bool :=
  a.seconds < b.seconds || (a.seconds == b.seconds && a.nanos ≤ b.nanos)

/-- The first instant of a day. -/
def ofDate (date : Date) : Instant :=
  ⟨date.toDays * 86400, 0⟩

/-- The earliest instant there is. -/
def first : Instant :=
  ofDate ⟨-262143, 1, 1⟩

/-- The last second there is. -/
def last : Instant :=
  { ofDate ⟨262142, 12, 31⟩ with seconds := (ofDate ⟨262142, 12, 31⟩).seconds + 86399 }

/-- The nanoseconds from the start of 1970. -/
def sinceStart (instant : Instant) : Int :=
  instant.seconds * 1000000000 + instant.nanos

/-- An instant some nanoseconds earlier; none if that is before the earliest. -/
def before? (instant : Instant) (nanos : Nat) : Option Instant :=
  let start := instant.sinceStart - nanos
  let earlier : Instant := ⟨start / 1000000000, (start % 1000000000).toNat⟩
  if first.seconds ≤ earlier.seconds then some earlier else none

/-! ### Writing -/

/-- A number with at least a number of digits. -/
def padded (width n : Nat) : List Char :=
  let digits := (Nat.repr n).toList
  List.replicate (width - digits.length) '0' ++ digits

/-- A year: four digits, or a sign and at least four. -/
def writeYear (year : Int) : List Char :=
  if 0 ≤ year ∧ year ≤ 9999 then padded 4 year.toNat
  else (if year < 0 then '-' else '+') :: padded 4 year.natAbs

/-- The fraction of a second, in groups of three digits. -/
def writeFraction (nanos : Nat) : List Char :=
  if nanos = 0 then []
  else if nanos % 1000000 = 0 then '.' :: padded 3 (nanos / 1000000)
  else if nanos % 1000 = 0 then '.' :: padded 6 (nanos / 1000)
  else '.' :: padded 9 nanos

/-- The text of an instant. -/
def write (instant : Instant) : List Char :=
  let date := Date.ofDays (instant.seconds / 86400)
  let second := (instant.seconds % 86400).toNat
  let leap := instant.nanos / 1000000000
  writeYear date.year ++ '-' :: padded 2 date.month ++ '-' :: padded 2 date.day ++
    'T' :: padded 2 (second / 3600) ++ ':' :: padded 2 (second / 60 % 60) ++
    ':' :: padded 2 (second % 60 + leap) ++ writeFraction (instant.nanos % 1000000000) ++ ['Z']

/-- The text of an instant. -/
def toText (instant : Instant) : String :=
  String.ofList instant.write

/-! ### Reading -/

/-- Why a text is no instant. -/
inductive ReadError
  | tooShort
  | invalid
  | outOfRange
  | tooLong
  | impossible
deriving DecidableEq, Repr

/-- The wording of a failure. -/
def ReadError.message : ReadError → String
  | .tooShort => "premature end of input"
  | .invalid => "input contains invalid characters"
  | .outOfRange => "input is out of range"
  | .tooLong => "trailing input"
  | .impossible => "no possible date and time matching input"

/-- Greatest number that fields may spell out. -/
def maxNumber : Nat := Nat.pow 2 63 - 1

/-- At least one digit and at most `width` of them. -/
def readNumber (width : Option Nat) (text : List Char) : Except ReadError (Nat × List Char) :=
  let digits := text.takeWhile Char.isDigit
  let digits := match width with
    | some width => digits.take width
    | none => digits
  if text.isEmpty then .error .tooShort
  else if digits.isEmpty then .error .invalid
  else
    let n := digits.foldl (fun n c => n * 10 + (c.toNat - '0'.toNat)) 0
    if n ≤ maxNumber then .ok (n, text.drop digits.length) else .error .outOfRange

/-- A field of two digits, within bounds, after blanks. -/
def readField (low high : Nat) (text : List Char) : Except ReadError (Nat × List Char) := do
  let (n, rest) ← readNumber (some 2) (Text.trimStart text)
  if low ≤ n ∧ n ≤ high then .ok (n, rest) else .error .outOfRange

/-- The year, after blanks. A year with a sign may have any number of digits. -/
def readYear (text : List Char) : Except ReadError (Int × List Char) := do
  let (year, rest) ← match Text.trimStart text with
    | '-' :: rest => do
      let (n, rest) ← readNumber none rest
      pure (-(n : Int), rest)
    | '+' :: rest => do
      let (n, rest) ← readNumber none rest
      pure ((n : Int), rest)
    | text => do
      let (n, rest) ← readNumber (some 4) text
      pure ((n : Int), rest)
  if -2147483648 ≤ year ∧ year ≤ 2147483647 then .ok (year, rest) else .error .outOfRange

/-- A separator, after blanks. -/
def readMark (mark : Char) (text : List Char) : Except ReadError (List Char) :=
  match Text.trimStart text with
  | [] => .error .tooShort
  | c :: rest => if c = mark then .ok rest else .error .invalid

/-- The fraction of a second in nanoseconds, if there is one; digits after the ninth are dropped. -/
def readFraction (text : List Char) : Except ReadError (Nat × List Char) :=
  match text with
  | '.' :: rest => do
    let (n, after) ← readNumber (some 9) rest
    let taken := rest.length - after.length
    .ok (n * Nat.pow 10 (9 - taken), after.dropWhile Char.isDigit)
  | rest => .ok (0, rest)

/-- Two digits, as a number. -/
def twoDigits (text : List Char) : Except ReadError (Nat × List Char) :=
  match text with
  | a :: b :: rest =>
    if a.isDigit ∧ b.isDigit then
      .ok ((a.toNat - '0'.toNat) * 10 + (b.toNat - '0'.toNat), rest)
    else .error .invalid
  | [a] => if 2 ≤ a.utf8Size then .error .invalid else .error .tooShort
  | [] => .error .tooShort

/-- The hours and minutes of an offset, in seconds. -/
def readOffsetSize (text : List Char) : Except ReadError (Nat × List Char) := do
  let (hours, rest) ← twoDigits text
  let rest := rest.dropWhile fun c => c = ':' || Text.isBlank c
  let (minutes, rest) ← twoDigits rest
  if minutes ≤ 59 then .ok (hours * 3600 + minutes * 60, rest) else .error .outOfRange

/-- The zone: `Z`, `UTC`, or an offset from UTC in seconds. -/
def readZone (text : List Char) : Except ReadError (Int × List Char) :=
  match text with
  | [] => .error .tooShort
  | c :: rest =>
    if c = 'Z' ∨ c = 'z' then .ok (0, rest)
    else if (text.take 3).map Char.toUpper = ['U', 'T', 'C'] then .ok (0, text.drop 3)
    else if c = '+' then do
      let (size, rest) ← readOffsetSize rest
      .ok (size, rest)
    else if c = '-' ∨ c = '−' then do
      let (size, rest) ← readOffsetSize rest
      .ok (-(size : Int), rest)
    else .error .invalid

/-- Reads an instant from a whole text. The date has to lie in the range of instants as it is
written, and the instant also once the offset has been taken away. -/
def read (text : List Char) : Except ReadError Instant := do
  let (year, text) ← readYear text
  let text ← readMark '-' text
  let (month, text) ← readField 1 12 text
  let text ← readMark '-' text
  let (day, text) ← readField 1 31 text
  let text ← match text with
    | [] => .error ReadError.tooShort
    | c :: rest =>
      if c = 'T' ∨ c = 't' ∨ c = ' ' then .ok rest else .error ReadError.invalid
  let (hour, text) ← readField 0 23 text
  let text ← readMark ':' text
  let (minute, text) ← readField 0 59 text
  let text ← readMark ':' text
  let (second, text) ← readField 0 60 text
  let (nanos, text) ← readFraction text
  let (offset, text) ← readZone (Text.trimStart text)
  if !(Text.trimStart text).isEmpty then .error .tooLong
  let date : Date := ⟨year, month, day⟩
  if !date.isValid ∨ year < -262143 ∨ 262142 < year ∨ 86400 ≤ offset.natAbs then
    .error .outOfRange
  let leap := if second = 60 then 1 else 0
  let seconds := date.toDays * 86400 + (hour * 3600 + minute * 60 + (second - leap) : Nat) - offset
  if seconds < first.seconds ∨ last.seconds < seconds then .error .impossible
  return ⟨seconds, nanos + leap * 1000000000⟩

end Instant

end Errand.Time
