/-!
# Addresses to listen at

The address of a machine, as it may be written: four numbers below 256 with points between them, or
eight groups of up to four hexadecimal digits with colons between them. Two colons stand for one or
more groups of zeros, and the last two groups may be written as four numbers.
-/

set_option autoImplicit false

namespace Errand.Gateway.Host

/-- A decimal digit or a hexadecimal one. -/
def isDigit (hexadecimal : Bool) (c : Char) : Bool :=
  c.isDigit || (hexadecimal && (('a' ≤ c && c ≤ 'f') || ('A' ≤ c && c ≤ 'F')))

/-- What follows a number from 0 to 255 that is written without needless zeros. -/
def afterByte (text : List Char) : Option (List Char) :=
  let digits := text.takeWhile (isDigit false)
  let value := digits.foldl (fun n c => 10 * n + (c.toNat - '0'.toNat)) 0
  if digits.isEmpty || 3 < digits.length || 255 < value then none
  else if digits.head? = some '0' && 1 < digits.length then none
  else some (text.dropWhile (isDigit false))

/-- What follows a character. -/
def after (c : Char) : List Char → Option (List Char)
  | d :: rest => if c = d then some rest else none
  | [] => none

/-- What follows four numbers with points between them. -/
def afterBytes (text : List Char) : Option (List Char) := do
  let text ← afterByte (← after '.' (← afterByte text))
  let text ← afterByte (← after '.' text)
  afterByte (← after '.' text)

/-- What follows a group of hexadecimal digits. -/
def afterGroup (text : List Char) : Option (List Char) :=
  let digits := text.takeWhile (isDigit true)
  if digits.isEmpty || 4 < digits.length then none else some (text.dropWhile (isDigit true))

/-- Reads groups, `left` at most: how many there were, whether they end in four numbers, and what
follows them. Every group but the first has a colon before it. -/
def groups (first : Bool) : (left : Nat) → List Char → Nat × Bool × List Char
  | 0, text => (0, false, text)
  | left + 1, text =>
    let entry := if first then some text else after ':' text
    match entry.bind afterBytes with
    | some rest =>
      if 1 ≤ left then (2, true, rest)
      else (0, false, text)
    | none =>
      match entry.bind afterGroup with
      | none => (0, false, text)
      | some rest =>
        let (count, bytes, rest) := groups false left rest
        (count + 1, bytes, rest)

/-- What follows groups of hexadecimal digits that are an address. -/
def afterGroups (text : List Char) : Option (List Char) :=
  let (count, bytes, rest) := groups true 8 text
  if count = 8 then some rest
  else if bytes then none
  else do
    let rest ← after ':' (← after ':' rest)
    return (groups true (7 - count) rest).2.2

/-- Whether a text is the address of a machine. -/
def isAddress (text : String) : Bool :=
  afterBytes text.toList = some [] || afterGroups text.toList = some []

/-- What is said of a text that is none. -/
def notAddress : String :=
  "invalid IP address syntax"

end Errand.Gateway.Host
