import Errand.Number.Double

/-!
# The exponential function

The exponential of a number of 64 bits, to within little more than half a unit of its last place.
The argument is a whole number of steps, of which 128 double the result, and a rest of at most half
a step. The powers of two at whole steps are known beforehand: the nearest number, and the small
part of it by which it misses the power. A polynomial of degree five takes care of the rest. A
product to which something is added is not rounded by itself.
-/

set_option autoImplicit false

namespace Errand.Number

namespace Exponential

/-! ### Steps -/

/-- How many steps double the result. -/
def stepCount : Nat := 128

/-- One, in the units in which the powers at steps are counted. -/
def one : Nat := Nat.pow 2 192

/-- The greatest number with a square up to `value`, among `low` and the `2 ^ bits - 1` after it, if
the square of `low` is not greater itself. -/
def rootAfter (value low : Nat) : (bits : Nat) → Nat
  | 0 => low
  | bits + 1 =>
    let middle := low + Nat.pow 2 bits
    if middle * middle ≤ value then rootAfter value middle bits else rootAfter value low bits

/-- The square root of a number below four, in units, taken a number of times. -/
def root (value : Nat) : (times : Nat) → Nat
  | 0 => value
  | times + 1 => root (rootAfter (value * one) 0 194) times

/-- The powers of two at the steps from zero to two, in units. -/
def powers : List Nat :=
  let step := root (2 * one) 7
  (List.range stepCount).foldr
    (fun _ powers => one :: powers.map fun power => power * step / one) []

/-- For every step the nearest number, and the part of it that is missing from the power. -/
def steps : Array (Double × Double) :=
  (powers.map fun power =>
    match Double.ofFraction false power one with
    | .finite near =>
      let (numerator, denominator) := near.fraction
      let known := numerator * one
      let wanted := power * denominator
      let missing := if known ≤ wanted then wanted - known else known - wanted
      (Double.finite near, Double.ofFraction (wanted < known) missing known)
    | near => (near, .ofInt 0)).toArray

/-! ### The rest -/

/-- How many steps there are to one unit of the argument. -/
def stepsPerUnit : Binary := ⟨false, 0x171547652B82FE, -45⟩

/-- A step, with its sign turned, up to bits that never get lost beside it. -/
def stepHigh : Double := .finite ⟨true, 0x162E42FEFA0000, -60⟩

/-- What is missing from `stepHigh`. -/
def stepLow : Double := .finite ⟨true, 0x1CF79ABC9E3B39, -99⟩

/-- The nearest whole number of steps to an argument. -/
def nearestStep (argument : Binary) : Int :=
  let (numerator, denominator) := argument.fraction
  let (perNumerator, perDenominator) := stepsPerUnit.fraction
  let size : Int := divHalfEven (numerator * perNumerator) (denominator * perDenominator)
  if argument.negative then -size else size

/-- The exponential of a rest, less one, with something added: the sum of the first two terms, and
two sums of two terms each. -/
def ofRest (added rest : Double) : Double :=
  let square := rest.mul rest
  let middle := rest.mulAdd (.finite ⟨false, 0x1555555555543C, -55⟩)
    (.finite ⟨false, 0x1FFFFFFFFFFDBD, -54⟩)
  let high := rest.mulAdd (.finite ⟨false, 0x11111167A4D017, -59⟩)
    (.finite ⟨false, 0x155555CF172B91, -57⟩)
  (square.mul square).mulAdd high (square.mulAdd middle (added.add rest))

/-- The exponential of an argument that is not far from zero. -/
def ofBinary (argument : Binary) : Double :=
  let step := nearestStep argument
  let count := Double.ofInt step
  let rest := count.mulAdd stepLow (count.mulAdd stepHigh (.finite argument))
  match steps.getD (step % stepCount).toNat (.ofInt 1, .ofInt 0) with
  | (.finite near, missing) =>
    let power := Double.finite { near with exponent := near.exponent + step / stepCount }
    power.mulAdd (ofRest missing rest) power
  | (near, _) => near

end Exponential

/-- The exponential. Beyond 1000 on either side there is nothing but infinity and zero. -/
def Double.exp : Double → Double
  | .finite x =>
    let (numerator, denominator) := x.fraction
    if 1000 * denominator < numerator then
      if x.negative then .ofInt 0 else .infinite false
    else Exponential.ofBinary x
  | .infinite negative => if negative then .ofInt 0 else .infinite false
  | .undefined => .undefined

end Errand.Number
