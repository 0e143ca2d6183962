import Errand.Text.Utf8

/-!
# Percent signs in addresses

A character that cannot stand for itself in a part of an address is written as its bytes, each as a
percent sign and two hexadecimal digits. Every part has its own set of such characters; controls and
what lies beyond ASCII belong to all of them. Reading goes the other way and leaves alone what is
not such a byte.
-/

set_option autoImplicit false

namespace Errand.Web.Percent

/-- A hexadecimal digit. -/
def digit (n : Nat) : Char :=
  if n < 10 then Char.ofNat ('0'.toNat + n) else Char.ofNat ('A'.toNat + (n - 10))

/-- The value of a hexadecimal digit. -/
def digitValue? (c : Char) : Option Nat :=
  if c.isDigit then some (c.toNat - '0'.toNat)
  else if 'a' ≤ c ∧ c ≤ 'f' then some (c.toNat - 'a'.toNat + 10)
  else if 'A' ≤ c ∧ c ≤ 'F' then some (c.toNat - 'A'.toNat + 10)
  else none

/-- A byte as it is written. -/
def byte (b : UInt8) : List Char :=
  ['%', digit (b.toNat / 16), digit (b.toNat % 16)]

/-- Whether a character is always written as bytes. -/
def isControl (c : Char) : Bool :=
  c.toNat < 0x20 || 0x7E < c.toNat

/-- A text with the characters of a set, and those that are always, written as bytes. -/
def encode (set : List Char) (text : List Char) : List Char :=
  text.flatMap fun c =>
    if isControl c || set.contains c then (String.utf8EncodeChar c).flatMap byte else [c]

/-- The bytes of a text in which some are written with percent signs. -/
def decode : List Char → List UInt8
  | '%' :: a :: b :: rest =>
    match digitValue? a, digitValue? b with
    | some high, some low => UInt8.ofNat (16 * high + low) :: decode rest
    | _, _ => '%'.toUInt8 :: decode (a :: b :: rest)
  | c :: rest => String.utf8EncodeChar c ++ decode rest
  | [] => []

/-- The text that is written, unless its bytes are no text. -/
def decodeText? (text : List Char) : Option (List Char) :=
  let bytes := decode text
  let chars := Text.decode bytes
  if Text.encode chars = bytes then some chars else none

/-! ### Sets -/

/-- The characters that cannot stand in a fragment. -/
def fragmentSet : List Char :=
  [' ', '"', '<', '>', '\x60']

/-- The characters that cannot stand in a path. -/
def pathSet : List Char :=
  fragmentSet ++ ['#', '?', '\x7b', '\x7d']

/-- The characters that cannot stand in a user or a password. -/
def userSet : List Char :=
  pathSet ++ ['/', ':', ';', '=', '@', '[', '\\', ']', '^', '|']

/-- The characters that cannot stand in a query. -/
def querySet (special : Bool) : List Char :=
  [' ', '"', '#', '<', '>'] ++ if special then ['\''] else []

end Errand.Web.Percent
