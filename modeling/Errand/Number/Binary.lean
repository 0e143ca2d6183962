/-!
# Binary floating point

A finite binary number is a whole mantissa times a power of two. A format fixes how many bits a
mantissa may have and how far the exponent reaches. Every operation here is exact arithmetic on
natural numbers followed by one rounding to the nearest member of a format, ties going to the even
mantissa; a result beyond the largest member is no number.
-/

set_option autoImplicit false

namespace Errand.Number

/-- How much a binary number can hold. -/
structure Format where
  /-- Bits of a full mantissa. -/
  precision : Nat
  /-- The exponent of the smallest step. -/
  minExponent : Int
  /-- The exponent of the largest step. -/
  maxExponent : Int
deriving DecidableEq, Repr

/-- Binary numbers of 64 bits. -/
def Format.double : Format := ⟨53, -1074, 971⟩

/-- Binary numbers of 32 bits. -/
def Format.single : Format := ⟨24, -149, 104⟩

/-- A finite binary number, `± mantissa · 2 ^ exponent`. Zero has a sign and the exponent 0. -/
structure Binary where
  /-- Whether the sign is set. -/
  negative : Bool
  /-- The whole mantissa. -/
  mantissa : Nat
  /-- The exponent of two. -/
  exponent : Int
deriving DecidableEq, Repr, Inhabited

/-- The power of `base` with a whole exponent, as a fraction. -/
def powerFraction (base : Nat) (exponent : Int) : Nat × Nat :=
  (Nat.pow base exponent.toNat, Nat.pow base (-exponent).toNat)

/-- The nearest whole number to a quotient, of two the even one. -/
def divHalfEven (numerator denominator : Nat) : Nat :=
  let quotient := numerator / denominator
  let twice := 2 * (numerator % denominator)
  if twice < denominator then quotient
  else if denominator < twice then quotient + 1
  else quotient + quotient % 2

/-- The exponent of two at which a positive fraction has a mantissa of the full length. -/
def Format.fullExponent (format : Format) (numerator denominator : Nat) : Int :=
  let rough : Int := (numerator.log2 : Int) - denominator.log2 - format.precision
  let scale := powerFraction 2 rough
  if numerator * scale.2 < Nat.pow 2 format.precision * (denominator * scale.1) then rough
  else rough + 1

/-- The member of a format nearest to a fraction; none if the fraction lies beyond them all. -/
def Format.round (format : Format) (negative : Bool) (numerator denominator : Nat) :
    Option Binary :=
  if numerator = 0 then some ⟨negative, 0, 0⟩
  else
    let exponent := max (format.fullExponent numerator denominator) format.minExponent
    let scale := powerFraction 2 exponent
    let mantissa := divHalfEven (numerator * scale.2) (denominator * scale.1)
    if mantissa = 0 then some ⟨negative, 0, 0⟩
    else
      let (mantissa, exponent) :=
        if mantissa = Nat.pow 2 format.precision then
          (Nat.pow 2 (format.precision - 1), exponent + 1)
        else (mantissa, exponent)
      if format.maxExponent < exponent then none else some ⟨negative, mantissa, exponent⟩

namespace Binary

/-- The size of a number as a fraction. -/
def fraction (x : Binary) : Nat × Nat :=
  let scale := powerFraction 2 x.exponent
  (x.mantissa * scale.1, scale.2)

/-- The product, rounded. -/
def mul (format : Format) (x y : Binary) : Option Binary :=
  format.round (x.negative != y.negative) (x.fraction.1 * y.fraction.1)
    (x.fraction.2 * y.fraction.2)

/-- The quotient by a number other than zero, rounded. -/
def div (format : Format) (x y : Binary) : Option Binary :=
  format.round (x.negative != y.negative) (x.fraction.1 * y.fraction.2)
    (x.fraction.2 * y.fraction.1)

/-- The nearest member of another format. -/
def convert (format : Format) (x : Binary) : Option Binary :=
  format.round x.negative x.fraction.1 x.fraction.2

/-- A whole number, rounded. -/
def ofInt (format : Format) (n : Int) : Option Binary :=
  format.round (n < 0) n.natAbs 1

/-- Whether one number is at most another; the two zeros are equal. -/
def le (x y : Binary) : Bool :=
  let sign (z : Binary) : Int := if z.negative then -1 else 1
  sign x * (x.fraction.1 * y.fraction.2 : Nat) ≤ sign y * (y.fraction.1 * x.fraction.2 : Nat)

end Binary

/-- Scales by a power of ten: the power is rounded first and the result again. Powers up to
`10 ^ 308` are members of the format; a smaller scale is reached by dividing by `10 ^ 308` first,
which `fuel` bounds. -/
def scaleByTen (size : Binary) : (fuel : Nat) → Int → Option Binary
  | fuel, exponent =>
    if exponent.natAbs ≤ 308 then do
      let power ← Format.double.round false (Nat.pow 10 exponent.natAbs) 1
      if 0 ≤ exponent then size.mul .double power else size.div .double power
    else if size.mantissa = 0 then some size
    else if 0 ≤ exponent then none
    else
      match fuel with
      | 0 => some { size with mantissa := 0, exponent := 0 }
      | fuel + 1 => do
        let power ← Format.double.round false (Nat.pow 10 308) 1
        let smaller ← size.div .double power
        scaleByTen smaller fuel (exponent + 308)

/-- The number that a decimal literal stands for: its significand, rounded, scaled by its power of
ten. Two divisions by `10 ^ 308` bring any significand of 64 bits to zero. -/
def ofDecimal (negative : Bool) (significand : Nat) (exponent : Int) : Option Binary := do
  let size ← Format.double.round false significand 1
  let scaled ← scaleByTen size 3 exponent
  return { scaled with negative }

end Errand.Number
