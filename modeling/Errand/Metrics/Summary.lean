import Errand.Number.Exponential

/-!
# Summaries of measured values

A summary keeps of a positive value only the bin that it falls into. The upper bounds of bins are
the powers of one ratio, so that the middle of a bin is within a ten-thousandth of every value in
it. A summary has a limited number of bins, and values below the lowest one count for that one.
Values up to a least size are not told from zero. The least and the greatest value are kept as they
are.
-/

set_option autoImplicit false

namespace Errand.Metrics.Summary

open Number (Double)

/-! ### Bins -/

/-- The natural logarithm of the ratio of bounds, which is `10001 / 9999`. -/
def spacing : Double :=
  .ofDecimal false 20000000066666668 (-20)

/-- The middle of a bin, as a part of its upper bound. -/
def middle : Double :=
  .ofDecimal false 9998999999999999 (-16)

/-- Values up to this one are not told from zero. -/
def leastSize : Double :=
  .ofDecimal false 1 (-9)

/-- How many bins a summary has. -/
def binCount : Nat := 32768

/-- The upper bound of a bin. -/
def bound (bin : Int) : Double :=
  (spacing.mul (.ofInt bin)).exp

/-- The value that stands for those in a bin. -/
def valueOf (bin : Int) : Double :=
  (bound bin).mul middle

/-- The least bin, after `low` and among the `2 ^ halvings` bins there, whose bound a value does not
exceed. -/
def binAfter (value : Double) (low : Int) : (halvings : Nat) → Int
  | 0 => low + 1
  | halvings + 1 =>
    let half := low + (Nat.pow 2 halvings : Nat)
    if value.le (bound half) then binAfter value low halvings else binAfter value half halvings

/-- The bin of a positive value. No bound within the format lies outside of those searched. -/
def binOf (value : Double) : Int :=
  binAfter value (-(Nat.pow 2 22 : Nat)) 23

/-! ### Ranks -/

/-- The ranks at which values are summed up, in thousandths. -/
def ranks : List (String × Nat) :=
  [("0", 0), ("0.5", 500), ("0.9", 900), ("0.95", 950), ("0.99", 990), ("0.999", 999),
    ("1", 1000)]

/-- Whether a value is told from zero. -/
def hasSize (value : Double) : Bool :=
  !value.le leastSize

/-- The value at a rank. -/
def valueAt (values : List Double) (thousandths : Nat) : Double :=
  let sorted := values.mergeSort Double.le
  let zero : Double := .ofInt 0
  if thousandths = 0 then sorted.head?.getD zero
  else if 1000 ≤ thousandths then sorted.getLast?.getD zero
  else
    let value := sorted[thousandths * (sorted.length - 1) / 1000]?.getD zero
    if hasSize value then
      let highest := binOf (sorted.getLast?.getD zero)
      valueOf (max (binOf value) (highest - ((binCount : Int) - 1)))
    else zero

end Errand.Metrics.Summary
