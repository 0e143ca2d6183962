import Errand.Entries
import Errand.Number.Single

/-!
# JSON values

A JSON value keeps what a reader of the text could tell apart: whole numbers that fit 64 bits are
exact, every other number is binary floating point, and the fields of an object stay in the order in
which they first appeared. A repeated key keeps its first position and takes the last value.
-/

set_option autoImplicit false

namespace Errand

/-- A number of a JSON value. -/
inductive Json.Number
  /-- A whole number, from `-2 ^ 63` to below `2 ^ 64`. -/
  | int (n : Int)
  /-- Any other number. -/
  | real (x : Number.Binary)
deriving DecidableEq, Repr

/-- A JSON value. -/
inductive Json
  | null
  | bool (b : Bool)
  | num (n : Json.Number)
  | str (s : String)
  | arr (items : List Json)
  | obj (fields : List (String × Json))
deriving Inhabited, Repr

namespace Json

/-- A natural number as a value. -/
def nat (n : Nat) : Json :=
  .num (.int n)

/-- A binary number as a value; it has to be a member of the 64-bit format. -/
def real (x : Number.Binary) : Json :=
  .num (.real x)

/-- A number of 32 bits as a value; null if it is not finite. -/
def single (x : Number.Single) : Json :=
  match x.toDouble? with
  | some y => .real y
  | none => .null

/-- The value of a text, or null if there is none. -/
def optStr : Option String → Json
  | none => .null
  | some s => .str s

/-- The value of a field of an object. -/
def field? (value : Json) (key : String) : Option Json :=
  match value with
  | .obj fields => fields.lookup key
  | _ => none

/-- The items of an array. -/
def items? : Json → Option (List Json)
  | .arr items => some items
  | _ => none

/-- The fields of an object. -/
def fields? : Json → Option (List (String × Json))
  | .obj fields => some fields
  | _ => none

/-- The text of a string. -/
def str? : Json → Option String
  | .str s => some s
  | _ => none

end Json

end Errand
