import Errand.Json.Basic

/-!
# JSON text as it is read

Reading JSON into a known shape meets its faults in the order of the text: a value of the wrong
kind near the start is reported even when the text breaks off later, and a flaw inside a field that
nobody asked for matters only if it also stops the reader from finding the field's end. `Source` is
the text read as far as it goes, with each flaw kept at the place where a reader comes to it. There
are two ways to come to a value: to decode it, or to skip it. Skipping is more lenient, so a flaw
records what each of the two finds.
-/

set_option autoImplicit false

namespace Errand.Json

/-- Why a text is no JSON. -/
inductive Flaw
  /-- A character that cannot stand where it does, or a number beyond all bounds. -/
  | malformed
  /-- The text ends too early. -/
  | truncated
deriving DecidableEq, Repr

/-- A string of the text: what decoding it gives, and the flaw that stops a reader who skips it. -/
structure Literal where
  /-- The decoded text. -/
  decoded : Except Flaw String
  /-- What skipping it meets. -/
  skipped : Option Flaw := none

/-- JSON text, read as far as it goes. -/
inductive Source
  | null
  | bool (b : Bool)
  /-- A number, or none if it is beyond all numbers. -/
  | num (n : Option Number)
  | str (literal : Literal)
  /-- The items up to the closing bracket, or up to the flaw that stands instead of it. -/
  | arr (items : List Source) (ending : Option Flaw)
  /-- The fields up to the closing brace, or up to the flaw that stands instead of it. -/
  | obj (fields : List (Literal × Source)) (ending : Option Flaw)
  /-- No value at all: the flaw for who decodes it, for who skips it, and for who expects a name
  there and does not look past the first character. -/
  | broken (decoding skipping naming : Flaw)

instance : Inhabited Source := ⟨.null⟩

namespace Source

mutual

/-- The flaw met when a value is skipped. -/
def skipFlaw : Source → Option Flaw
  | .null | .bool _ | .num _ => none
  | .str literal => literal.skipped
  | .arr items ending => (skipItems items).or ending
  | .obj fields ending => (skipFields fields).or ending
  | .broken _ skipping _ => some skipping

/-- The first flaw met when items are skipped. -/
def skipItems : List Source → Option Flaw
  | [] => none
  | item :: rest => (skipFlaw item).or (skipItems rest)

/-- The first flaw met when fields are skipped. -/
def skipFields : List (Literal × Source) → Option Flaw
  | [] => none
  | (key, value) :: rest => (key.skipped.or (skipFlaw value)).or (skipFields rest)

end

mutual

/-- A value seen as the text that it would be read from. -/
def ofJson : Json → Source
  | .null => .null
  | .bool b => .bool b
  | .num n => .num (some n)
  | .str s => .str { decoded := .ok s }
  | .arr items => .arr (ofItems items) none
  | .obj fields => .obj (ofFields fields) none

/-- Items seen as text. -/
def ofItems : List Json → List Source
  | [] => []
  | item :: rest => ofJson item :: ofItems rest

/-- Fields seen as text. -/
def ofFields : List (String × Json) → List (Literal × Source)
  | [] => []
  | (key, value) :: rest => ({ decoded := .ok key }, ofJson value) :: ofFields rest

end

/-- How many arrays and objects may stand inside one another. -/
def maxDepth : Nat := 127

/-- Refuses a container that would be nested too deeply. -/
def enter (depth : Nat) : Except Flaw Unit :=
  if depth < maxDepth then .ok () else .error .malformed

mutual

/-- The value of a text, at a depth of nesting. -/
def toJson (depth : Nat) : Source → Except Flaw Json
  | .null => .ok .null
  | .bool b => .ok (.bool b)
  | .num (some n) => .ok (.num n)
  | .num none => .error .malformed
  | .str literal => literal.decoded.map .str
  | .arr items ending => do
    enter depth
    let items ← toItems (depth + 1) items
    match ending with
    | none => .ok (.arr items)
    | some flaw => .error flaw
  | .obj fields ending => do
    enter depth
    let fields ← toFields (depth + 1) [] fields
    match ending with
    | none => .ok (.obj fields)
    | some flaw => .error flaw
  | .broken decoding _ _ => .error decoding

/-- The items of an array, in order. -/
def toItems (depth : Nat) : List Source → Except Flaw (List Json)
  | [] => .ok []
  | item :: rest => do
    let item ← toJson depth item
    let rest ← toItems depth rest
    return item :: rest

/-- The fields of an object after those already read. -/
def toFields (depth : Nat) (done : List (String × Json)) :
    List (Literal × Source) → Except Flaw (List (String × Json))
  | [] => .ok done
  | (key, value) :: rest => do
    let key ← key.decoded
    let value ← toJson depth value
    toFields depth (Entries.set key value done) rest

end

end Source

end Errand.Json
