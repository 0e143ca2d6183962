import Errand.Number.Single

/-!
# Numbers of 64 bits

Settings and measurements have 64 bits. In settings a number may be infinite or undefined, and it
may be written as a text: digits with at most one point among them, an exponent, or a name such as
`inf` and `nan`, in any case and with a sign. The text stands for the member of the format nearest
to it.
-/

set_option autoImplicit false

namespace Errand.Number

/-- A number of 64 bits. -/
inductive Double
  /-- A member of the 64-bit format. -/
  | finite (x : Binary)
  | infinite (negative : Bool)
  | undefined
deriving DecidableEq, Repr

namespace Double

/-- The fraction nearest to which a number is wanted, with its sign. -/
def ofFraction (negative : Bool) (numerator denominator : Nat) : Double :=
  match Format.double.round negative numerator denominator with
  | some x => .finite x
  | none => .infinite negative

/-- The nearest whole number. -/
def ofInt (n : Int) : Double :=
  ofFraction (n < 0) n.natAbs 1

/-- The number nearest to `± significand · 10 ^ exponent`. Powers far beyond the format are not
computed. -/
def ofDecimal (negative : Bool) (significand : Nat) (exponent : Int) : Double :=
  let first := exponent + (Nat.repr significand).length
  if significand = 0 ∨ first < -330 then ofFraction negative 0 1
  else if 310 < first then .infinite negative
  else
    let scale := powerFraction 10 exponent
    ofFraction negative (significand * scale.1) scale.2

/-- The number rounded to 32 bits. -/
def toSingle : Double → Single
  | .finite x => .ofDouble x
  | .infinite negative => .infinite negative
  | .undefined => .undefined

/-- The number as settings show it. -/
def toText : Double → String
  | .finite x => Layout.plain.render .double x
  | .infinite true => "-inf"
  | .infinite false => "inf"
  | .undefined => "NaN"

/-- Whether the number differs from zero. -/
def isNonzero : Double → Bool
  | .finite x => x.mantissa != 0
  | _ => true

/-- The nearest natural number below `2 ^ 64`; of two the greater. What is undefined counts as
zero. -/
def toWord : Double → Nat
  | .finite x =>
    if x.negative then 0
    else min ((2 * x.fraction.1 + x.fraction.2) / (2 * x.fraction.2)) (Nat.pow 2 64 - 1)
  | .infinite negative => if negative then 0 else Nat.pow 2 64 - 1
  | .undefined => 0

/-- Whether a number is at most another; what is undefined is not. -/
def le : Double → Double → Bool
  | .finite x, .finite y => x.le y
  | .finite _, .infinite negative => !negative
  | .infinite negative, .finite _ => negative
  | .infinite a, .infinite b => a || !b
  | .undefined, _ | _, .undefined => false

/-- The sum, rounded. -/
def add : Double → Double → Double
  | .finite x, .finite y =>
    let signed (z : Binary) (scale : Nat) : Int :=
      (if z.negative then -1 else 1) * ((z.fraction.1 * scale : Nat) : Int)
    let sum := signed x y.fraction.2 + signed y x.fraction.2
    ofFraction (if sum = 0 then x.negative && y.negative else sum < 0) sum.natAbs
      (x.fraction.2 * y.fraction.2)
  | .infinite a, .infinite b => if a = b then .infinite a else .undefined
  | .infinite a, .finite _ => .infinite a
  | .finite _, .infinite b => .infinite b
  | .undefined, _ | _, .undefined => .undefined

/-- The product, rounded. -/
def mul : Double → Double → Double
  | .finite x, .finite y =>
    ofFraction (x.negative != y.negative) (x.fraction.1 * y.fraction.1)
      (x.fraction.2 * y.fraction.2)
  | .infinite a, .infinite b => .infinite (a != b)
  | .infinite a, .finite x | .finite x, .infinite a =>
    if x.mantissa = 0 then .undefined else .infinite (a != x.negative)
  | .undefined, _ | _, .undefined => .undefined

/-- The product, to which a number is added before it is rounded. -/
def mulAdd (x y z : Double) : Double :=
  match x, y, z with
  | .finite a, .finite b, .finite c =>
    let signed (negative : Bool) (n : Nat) : Int := if negative then -(n : Int) else n
    let negative := a.negative != b.negative
    let (numerator, denominator) :=
      (a.fraction.1 * b.fraction.1, a.fraction.2 * b.fraction.2)
    let sum := signed negative (numerator * c.fraction.2) +
      signed c.negative (c.fraction.1 * denominator)
    ofFraction (if sum = 0 then negative && c.negative else sum < 0) sum.natAbs
      (denominator * c.fraction.2)
  | x, y, z => (x.mul y).add z

/-! ### Reading -/

/-- The value of decimal digits, or nothing if there is another character. -/
def digits? (text : List Char) : Option Nat :=
  text.foldlM
    (fun value c => if c.isDigit then some (10 * value + (c.toNat - '0'.toNat)) else none) 0

/-- A whole number with an optional sign. -/
def signed? (text : List Char) : Option Int :=
  let (negative, digits) := match text with
    | '-' :: rest => (true, rest)
    | '+' :: rest => (false, rest)
    | _ => (false, text)
  if digits.isEmpty then none
  else (digits? digits).map fun n => if negative then -(n : Int) else n

/-- A number without a sign: digits, with a point and an exponent if wanted. -/
def magnitude? (negative : Bool) (text : List Char) : Option Double := do
  let isMark (c : Char) : Bool := c == 'e' || c == 'E'
  let mantissa := text.takeWhile (!isMark ·)
  let whole := mantissa.takeWhile (· != '.')
  let fraction := (mantissa.dropWhile (· != '.')).drop 1
  if whole.isEmpty && fraction.isEmpty then none
  let significand ← digits? (whole ++ fraction)
  let exponent ← match text.dropWhile (!isMark ·) with
    | [] => some 0
    | _ :: digits => signed? digits
  return ofDecimal negative significand (exponent - fraction.length)

/-- The number that a text stands for. -/
def ofText? (text : List Char) : Option Double :=
  let (negative, rest) := match text with
    | '-' :: rest => (true, rest)
    | '+' :: rest => (false, rest)
    | _ => (false, text)
  match String.ofList (rest.map Char.toLower) with
  | "inf" | "infinity" => some (.infinite negative)
  | "nan" => some .undefined
  | _ => magnitude? negative rest

end Double

end Errand.Number
