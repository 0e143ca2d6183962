import Errand.Web.Name
import Errand.Web.Percent

/-!
# Hosts

The host of an address is a name or a number. A name is written in ASCII and folded; if its last
part is a number, all of it has to be one: up to four parts, each in decimal, octal or
hexadecimal, the last of which fills what the others leave of 32 bits. In brackets stands a number
of 128 bits: eight groups of hexadecimal digits, of which two colons leave out some zeros and the
last two may be four decimal numbers. Addresses of other schemes have hosts that are not looked
into.
-/

set_option autoImplicit false

namespace Errand.Web

/-- A host. -/
inductive Host
  /-- A name. -/
  | name (text : String)
  /-- A number of 32 bits. -/
  | four (number : Nat)
  /-- A number of 128 bits, in groups of 16. -/
  | six (groups : List Nat)
deriving DecidableEq, Repr

namespace Host

/-! ### Numbers of 32 bits -/

/-- The value of digits of a base. -/
def digits? (base : Nat) (text : List Char) : Option Nat :=
  text.foldlM
    (fun value c =>
      match Percent.digitValue? c with
      | some d => if d < base then some (base * value + d) else none
      | none => none)
    0

/-- The value of a part: hexadecimal after `0x`, octal after `0`, otherwise decimal. -/
def part? : List Char → Option Nat
  | [] => none
  | '0' :: 'x' :: rest | '0' :: 'X' :: rest => digits? 16 rest
  | ['0'] => some 0
  | '0' :: rest => digits? 8 rest
  | text => digits? 10 text

/-- The parts of a name; a point at its end separates nothing. -/
def nameParts (text : List Char) : List (List Char) :=
  let all := Text.parts '.' text
  if 1 < all.length && all.getLast? = some [] then all.dropLast else all

/-- Whether a name has to be a number: its last part is one, or has decimal digits only. -/
def endsInNumber (text : List Char) : Bool :=
  match (nameParts text).getLast? with
  | some last => (part? last).isSome || (!last.isEmpty && last.all Char.isDigit)
  | none => false

/-- The number that parts make: each but the last has eight bits. -/
def join? (known : Nat) : List Nat → Option Nat
  | [] => none
  | [last] => if known ≤ 3 ∧ last < Nat.pow 256 (4 - known) then some last else none
  | part :: rest => do
    let low ← join? (known + 1) rest
    if part < 256 then some (part * Nat.pow 256 (3 - known) + low) else none

/-- A name that has to be a number. -/
def four? (text : List Char) : Option Host := do
  let numbers ← (nameParts text).mapM part?
  let number ← join? 0 numbers
  return .four number

/-! ### Numbers of 128 bits -/

/-- A number from 0 to 255, in decimal and without needless zeros. -/
def byte? (text : List Char) : Option Nat := do
  let value ← digits? 10 text
  if text.isEmpty ∨ 255 < value ∨ (text.head? = some '0' ∧ 1 < text.length) then none
  else return value

/-- The groups of a text between colons; the last two may be four decimal numbers. -/
def groups? (decimalsAllowed : Bool) : List (List Char) → Option (List Nat)
  | [] => some []
  | part :: rest => do
    if rest.isEmpty && decimalsAllowed && part.contains '.' then
      match ← (Text.parts '.' part).mapM byte? with
      | [a, b, c, d] => return [256 * a + b, 256 * c + d]
      | _ => none
    else
      let group ← digits? 16 part
      if part.isEmpty ∨ 4 < part.length then none
      else return group :: (← groups? decimalsAllowed rest)

/-- The groups of a side of two colons; a side may be empty. -/
def side? (decimalsAllowed : Bool) (text : List Char) : Option (List Nat) :=
  if text.isEmpty then some [] else groups? decimalsAllowed (Text.parts ':' text)

/-- The text before the first two colons and the text after them. -/
def splitColons? : List Char → Option (List Char × List Char)
  | ':' :: ':' :: rest => some ([], rest)
  | c :: rest => (splitColons? rest).map fun (front, back) => (c :: front, back)
  | [] => none

/-- A number in brackets. -/
def six? (text : List Char) : Option Host := do
  match splitColons? text with
  | some (front, back) =>
    let front ← side? false front
    let back ← side? true back
    if front.length + back.length ≤ 7 then
      return .six (front ++ List.replicate (8 - front.length - back.length) 0 ++ back)
    else none
  | none =>
    let groups ← groups? true (Text.parts ':' text)
    if groups.length = 8 then return .six groups else none

/-! ### Names -/

/-- The host of an address whose scheme gives it a meaning. -/
def parse? (text : List Char) : Option Host :=
  match text with
  | '[' :: inside =>
    if inside.getLast? = some ']' then six? inside.dropLast else none
  | _ => do
    let name ← Name.toAscii? (← Percent.decodeText? text)
    if name.isEmpty then none
    else if endsInNumber name then four? name else return .name (String.ofList name)

/-- The host of an address of another scheme; it may be empty. -/
def foreign? (text : List Char) : Option Host :=
  match text with
  | '[' :: inside =>
    if inside.getLast? = some ']' then six? inside.dropLast else none
  | _ =>
    if text.any fun c => Name.isForbidden c && c != '%' && !Percent.isControl c || c = '\x00' then
      none
    else some (.name (String.ofList (Percent.encode [] text)))

/-! ### Writing -/

/-- The numbers of 32 bits in groups of eight. -/
def bytesText (number : Nat) : String :=
  String.intercalate "." ([3, 2, 1, 0].map fun place =>
    toString (number / Nat.pow 256 place % 256))

/-- The length of the zeros at the start of groups. -/
def zeros (groups : List Nat) : Nat :=
  (groups.takeWhile (· == 0)).length

/-- The length of the longest run of zeros. -/
def longestZeros : List Nat → Nat
  | [] => 0
  | group :: rest => max (zeros (group :: rest)) (longestZeros rest)

/-- Groups with colons between them. -/
def groupsText (groups : List Nat) : String :=
  String.intercalate ":" (groups.map fun group => String.ofList (Nat.toDigits 16 group))

/-- Groups as they are written: two colons stand for the first of the longest runs of zeros, if
there are two zeros or more. -/
def sixText (groups : List Nat) : String :=
  let run := longestZeros groups
  if run < 2 then groupsText groups
  else
    match (List.range groups.length).find? fun place => zeros (groups.drop place) == run with
    | none => groupsText groups
    | some place =>
      groupsText (groups.take place) ++ "::" ++ groupsText (groups.drop (place + run))

/-- A host as it is written. -/
def toText : Host → String
  | .name text => text
  | .four number => bytesText number
  | .six groups => "[" ++ sixText groups ++ "]"

end Host

end Errand.Web
