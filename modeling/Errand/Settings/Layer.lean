import Errand.Entries
import Errand.Json.Basic
import Errand.Number.Double
import Errand.Text.Blank
import Errand.Text.Lower
import Errand.Text.Search

/-!
# Layers of settings

Settings are laid over each other: what a later layer says about a setting replaces what an earlier
one says, and sections are merged setting by setting. Names of settings are in lower case. Every
value remembers where it was written.

A layer says where a value belongs by an address: names separated by points, and numbers in brackets
for places in a list. What is no address is taken as one name.
-/

set_option autoImplicit false

namespace Errand.Settings

/-- What a setting can be as it is written. -/
inductive Scalar
  | nothing
  | flag (b : Bool)
  | whole (n : Int)
  | real (x : Number.Double)
  | text (s : String)
deriving DecidableEq, Repr

/-- A value as it is written, with the place where it was written unless it came about by merging.
-/
inductive Layered
  | scalar (origin : Option String) (scalar : Scalar)
  | list (origin : Option String) (items : List Layered)
  | table (origin : Option String) (fields : List (String × Layered))
deriving Repr

namespace Layered

/-- A section without settings. -/
def emptyTable : Layered :=
  .table none []

/-- The settings of a section; another value is replaced by an empty section. -/
def fieldsOf : Layered → List (String × Layered)
  | .table _ fields => fields
  | _ => []

/-- The items of a list; another value is replaced by an empty list. -/
def itemsOf : Layered → List Layered
  | .list _ items => items
  | _ => []

/-- A name in lower case. -/
def lowerName (name : String) : String :=
  String.ofList (Text.lower name.toList)

mutual

/-- Lays a value over another. An empty section leaves whatever was there. -/
def overlay (below : Layered) : Layered → Layered
  | .table _ fields => overlayFields below fields
  | above => above

/-- Lays settings over a section. -/
def overlayFields (below : Layered) : List (String × Layered) → Layered
  | [] => below
  | (name, value) :: rest =>
    let fields := below.fieldsOf
    let name := lowerName name
    let value := overlay ((fields.lookup name).getD emptyTable) value
    overlayFields (.table none (Entries.set name value fields)) rest

end

/-! ### Addresses -/

/-- One step of an address. -/
inductive Step
  | name (name : String)
  | index (index : Int)
deriving DecidableEq, Repr

/-- A character of a name in an address. -/
def isNameChar (c : Char) : Bool :=
  c.isAlphanum || c == ' ' || c == '_' || c == '-'

/-- A blank around a number in brackets. -/
def isIndexBlank (c : Char) : Bool :=
  c == ' ' || c == '\t'

/-- The number in brackets, of 64 bits and without a plus sign. -/
def index? (text : List Char) : Option Int :=
  let inner := Text.stripWhile isIndexBlank text
  let bound : Int := Nat.pow 2 63
  if inner.head? = some '+' then none
  else (Number.Double.signed? inner).filter fun n => -bound ≤ n ∧ n < bound

/-- The steps after the first name of an address; `fuel` bounds their number. -/
def stepsAfter : (fuel : Nat) → List Char → Option (List Step)
  | _, [] => some []
  | 0, _ => none
  | fuel + 1, '.' :: text =>
    let name := text.takeWhile isNameChar
    if name.isEmpty then none
    else (stepsAfter fuel (text.dropWhile isNameChar)).map (.name (String.ofList name) :: ·)
  | fuel + 1, '[' :: text =>
    match index? (text.takeWhile (· != ']')), text.dropWhile (· != ']') with
    | some index, _ :: rest => (stepsAfter fuel rest).map (.index index :: ·)
    | _, _ => none
  | _, _ => none

/-- The steps of an address; a text that is none is one name. -/
def address (text : String) : List Step :=
  let name := text.toList.takeWhile isNameChar
  let whole := [Step.name text]
  if name.isEmpty then whole
  else
    match stepsAfter text.length (text.toList.dropWhile isNameChar) with
    | some steps => .name (String.ofList name) :: steps
    | none => whole

/-- No list of settings is longer. -/
def longest : Nat :=
  Nat.pow 2 32

/-- Where an index points in a list; from the end if it is negative. -/
def position? (index : Int) (length : Nat) : Option Nat :=
  if 0 ≤ index then if index.toNat < longest then some index.toNat else none
  else if index.natAbs ≤ length then some (length - index.natAbs)
  else none

/-- A list filled up with nothing as far as a position. -/
def filledUp (position : Nat) (items : List Layered) : List Layered :=
  items ++ List.replicate (position + 1 - items.length) (.scalar none .nothing)

/-- Lays a value over what is at an address; a list has no place before its first item, and none
that is too far away. -/
def placeAt (value : Layered) : List Step → Layered → Option Layered
  | [], _ => some value
  | [.name name], below => some (overlayFields below [(name, value)])
  | .name name :: rest, below => do
    let fields := below.fieldsOf
    let name := lowerName name
    let inner ← placeAt value rest ((fields.lookup name).getD (.scalar none .nothing))
    return .table none (Entries.set name inner fields)
  | .index index :: rest, below => do
    let position ← position? index below.itemsOf.length
    let items := filledUp position below.itemsOf
    let inner ← placeAt value rest (items[position]?.getD (.scalar none .nothing))
    return .list none (items.set position inner)

/-- Lays a whole layer over what is there. -/
def place (below : Layered) (layer : List (String × Layered)) : Option Layered :=
  layer.foldlM (fun below (name, value) => placeAt value (address name) below) below

/-! ### Files -/

mutual

/-- A JSON value as it stands in a file. -/
def ofJson (origin : String) : Json → Layered
  | .null => .scalar (some origin) .nothing
  | .bool b => .scalar (some origin) (.flag b)
  | .num (.int n) =>
    .scalar (some origin) (if n < Nat.pow 2 63 then .whole n else .real (.ofInt n))
  | .num (.real x) => .scalar (some origin) (.real (.finite x))
  | .str s => .scalar (some origin) (.text s)
  | .arr items => .list (some origin) (ofItems origin items)
  | .obj fields => .table (some origin) (ofFields origin fields)

/-- The items of an array. -/
def ofItems (origin : String) : List Json → List Layered
  | [] => []
  | item :: rest => ofJson origin item :: ofItems origin rest

/-- The fields of an object. -/
def ofFields (origin : String) : List (String × Json) → List (String × Layered)
  | [] => []
  | (name, value) :: rest => (name, ofJson origin value) :: ofFields origin rest

end

/-! ### The environment -/

/-- A variable as a scalar: a truth value, a number, or else a text. -/
def scalarOfText (text : String) : Scalar :=
  let chars := text.toList
  match lowerName text with
  | "true" => .flag true
  | "false" => .flag false
  | _ =>
    let bound : Int := Nat.pow 2 63
    match (Number.Double.signed? chars).filter fun n => -bound ≤ n ∧ n < bound with
    | some n => .whole n
    | none =>
      match Number.Double.ofText? chars with
      | some x => .real x
      | none => .text text

/-- Where a variable was written. -/
def environmentOrigin : String :=
  "the environment"

/-- The setting that a variable stands for: its name starts with `APP__`, and two underscores
separate the steps of the address. -/
def ofVariable (name value : String) : Option (String × Layered) :=
  match Text.stripFront "app__".toList (Text.lower name.toList) with
  | none => none
  | some rest =>
    some (String.ofList (Text.replace ['_', '_'] ['.'] rest),
      .scalar (some environmentOrigin) (scalarOfText value))

end Layered

end Errand.Settings
