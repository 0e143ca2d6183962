import Errand.Json.Writer

/-!
# New ids

Ids are numbers of 128 bits in five groups of hexadecimal digits, of which six bits say how the id
was made. A sequence of ids starts from a random number and goes on from there.
-/

set_option autoImplicit false

namespace Errand.Service.Ids

/-- The last `count` hexadecimal digits of a number. -/
def digits : (count : Nat) → Nat → List Char
  | 0, _ => []
  | count + 1, n => digits count (n / 16) ++ [Json.hexDigit (n % 16)]

/-- The id that a number of 122 bits makes. -/
def ofNumber (n : Nat) : String :=
  let low := digits 15 n
  let middle := digits 3 (n / Nat.pow 16 15)
  let high := digits 12 (n / Nat.pow 16 18)
  let variant := Json.hexDigit (8 + n / Nat.pow 16 30 % 4)
  String.ofList (high.take 8 ++ '-' :: high.drop 8 ++ '-' :: '4' :: middle ++ '-' :: variant ::
    low.take 3 ++ '-' :: low.drop 3)

/-- The sequence of ids from a random number on. -/
def sequence (start : Nat) (n : Nat) : String :=
  ofNumber ((start + n) % Nat.pow 2 122)

end Errand.Service.Ids
