import Errand.Number.Shortest

/-!
# Numbers of 32 bits

Settings such as a temperature have 32 bits. A number that is too large for them becomes infinite.
What is not finite has no JSON form and is written as null there.
-/

set_option autoImplicit false

namespace Errand.Number

/-- A number of 32 bits. -/
inductive Single
  /-- A member of the 32-bit format. -/
  | finite (x : Binary)
  | infinite (negative : Bool)
  | undefined
deriving DecidableEq, Repr

namespace Single

/-- A number of 64 bits, rounded again. -/
def ofDouble (x : Binary) : Single :=
  match x.convert .single with
  | some y => .finite y
  | none => .infinite x.negative

/-- The nearest number to a whole number. -/
def ofInt (n : Int) : Single :=
  match Binary.ofInt .single n with
  | some x => .finite x
  | none => .infinite (n < 0)

/-- The nearest number to `significand · 10 ^ exponent`. -/
def ofDecimal (significand : Nat) (exponent : Int) : Single :=
  match Number.ofDecimal false significand exponent with
  | some x => ofDouble x
  | none => .infinite false

/-- The same number with 64 bits. -/
def toDouble? : Single → Option Binary
  | .finite x => x.convert .double
  | _ => none

/-- The number as settings show it. -/
def toText : Single → String
  | .finite x => Layout.plain.render .single x
  | .infinite true => "-inf"
  | .infinite false => "inf"
  | .undefined => "NaN"

end Single

end Errand.Number
