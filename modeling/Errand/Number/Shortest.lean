import Errand.Number.Binary

/-!
# The shortest decimal that reads back

A binary number is shown with the fewest decimal digits that still lie in the interval of reals
which round to it, and of those digits with the ones nearest to it. For one digit, two digits and
so on the two neighbours of the number on that decimal grid are tested in exact arithmetic; the
first grid with a hit wins. `Layout` then says how digits and exponent are written out.
-/

set_option autoImplicit false

namespace Errand.Number

/-- Digits and power of ten: the number `digits · 10 ^ exponent`. -/
structure Decimal where
  /-- All digits, as one number. -/
  digits : Nat
  /-- The power of ten of the last digit. -/
  exponent : Int
deriving DecidableEq, Repr

/-- The greatest exponent of ten, from a guess on, whose power is at most the fraction. -/
def tenExponentFrom (numerator denominator : Nat) : (fuel : Nat) → Int → Int
  | 0, guess => guess
  | fuel + 1, guess =>
    let power := powerFraction 10 (guess + 1)
    if power.1 * denominator ≤ numerator * power.2 then
      tenExponentFrom numerator denominator fuel (guess + 1)
    else guess

/-- The exponent of ten of the first digit of a positive fraction. -/
def tenExponent (numerator denominator : Nat) : Int :=
  let bits : Int := (numerator.log2 : Int) - denominator.log2
  tenExponentFrom numerator denominator 4 ((bits - 1) * 30103 / 100000 - 1)

/-- The reals that round to a positive number: lower and upper end as numerators over one
denominator, and whether the ends belong to them. -/
def interval (format : Format) (x : Binary) : Nat × Nat × Nat × Bool :=
  let scale := powerFraction 2 (x.exponent - 2)
  let narrow := x.mantissa = Nat.pow 2 (format.precision - 1) ∧ format.minExponent < x.exponent
  let low := if narrow then 4 * x.mantissa - 1 else 4 * x.mantissa - 2
  (low * scale.1, (4 * x.mantissa + 2) * scale.1, scale.2, x.mantissa % 2 == 0)

/-- The decimal of `count` digits for a positive number, if one reads back. -/
def decimalOfLength? (format : Format) (x : Binary) (first : Int) (count : Nat) :
    Option Decimal :=
  let exponent := first - count + 1
  let power := powerFraction 10 exponent
  let (numerator, denominator) := x.fraction
  let (low, high, unit, closed) := interval format x
  let below := (numerator * power.2) / (denominator * power.1)
  let reads (digits : Nat) : Bool :=
    let value := digits * power.1 * unit
    if closed then low * power.2 ≤ value && value ≤ high * power.2
    else low * power.2 < value && value < high * power.2
  let above := below + 1
  let twice := 2 * numerator * power.2
  let middle := (below + above) * power.1 * denominator
  match reads below, reads above with
  | false, false => none
  | true, false => some ⟨below, exponent⟩
  | false, true => some ⟨above, exponent⟩
  | true, true =>
    if twice < middle then some ⟨below, exponent⟩
    else if middle < twice then some ⟨above, exponent⟩
    else some ⟨below + below % 2, exponent⟩

/-- The decimal of the fewest digits that reads back as a positive number. -/
def shortest (format : Format) (x : Binary) : Decimal :=
  let (numerator, denominator) := x.fraction
  let first := tenExponent numerator denominator
  let found := (List.range 17).findSome? fun n => decimalOfLength? format x first (n + 1)
  found.getD ⟨numerator / denominator, 0⟩

/-- Drops zeros at the end of the digits, for at most `fuel` of them. -/
def Decimal.dropZeros : (fuel : Nat) → Decimal → Decimal
  | 0, d => d
  | fuel + 1, d =>
    if d.digits % 10 = 0 ∧ d.digits ≠ 0 then dropZeros fuel ⟨d.digits / 10, d.exponent + 1⟩
    else d

/-- How a number is written: the exponents of its first digit for which it is written without an
exponent, and whether a whole number keeps a fraction. -/
structure Layout where
  /-- The least exponent written positionally; none for no bound. -/
  least? : Option Int
  /-- The greatest exponent written positionally; none for no bound. -/
  greatest? : Option Int
  /-- Whether a whole number ends in `.0`. -/
  keepFraction : Bool

/-- Numbers in JSON: positional from `1e-5` to below `1e16`, and always with a fraction or an
exponent. -/
def Layout.json : Layout := ⟨some (-5), some 15, true⟩

/-- Numbers in settings and metrics: positional, and whole numbers bare. -/
def Layout.plain : Layout := ⟨none, none, false⟩

/-- The digits of a decimal written with a point where the exponent says. -/
def positional (layout : Layout) (digits : List Char) (exponent : Int) : List Char :=
  if 0 ≤ exponent then
    digits ++ List.replicate exponent.toNat '0' ++ (if layout.keepFraction then ['.', '0'] else [])
  else
    let places := (-exponent).toNat
    if places < digits.length then
      digits.take (digits.length - places) ++ '.' :: digits.drop (digits.length - places)
    else '0' :: '.' :: List.replicate (places - digits.length) '0' ++ digits

/-- One digit before the point, and the exponent of ten with its sign. -/
def scientific (digits : List Char) (first : Int) : List Char :=
  let mantissa := match digits with
    | [] => []
    | [d] => [d]
    | d :: rest => d :: '.' :: rest
  mantissa ++ 'e' :: (if first < 0 then '-' else '+') :: (Nat.repr first.natAbs).toList

/-- A number written out. -/
def Layout.render (layout : Layout) (format : Format) (x : Binary) : String :=
  let sign := if x.negative then ['-'] else []
  let decimal := if x.mantissa = 0 then ⟨0, 0⟩ else (shortest format x).dropZeros 20
  let digits := (Nat.repr decimal.digits).toList
  let first := decimal.exponent + digits.length - 1
  let inside := layout.least?.all (· ≤ first) && layout.greatest?.all (first ≤ ·)
  String.ofList <|
    sign ++ (if inside then positional layout digits decimal.exponent else scientific digits first)

end Errand.Number
