import Errand.Json.Reader
import Errand.Json.Writer
import Errand.Number.Single
import Errand.Text.Quoted

/-!
# Decoding JSON into known shapes

A `Decoder` turns a value, as it is read, into something of a known shape, or says what is wrong
with it. The value may still be text, so that flaws of the text and faults of the shape compete; the
one that comes first in the text is reported.

An object shape is built from `Fields`, which names its fields in order and combines their decoders
as an applicative. All faults of an object are found, each with the position of the entry it belongs
to, and the earliest is kept. A required field that is missing is noticed at the end, in the order
in which the fields are declared. The same shape may be written as an array of its fields.
-/

set_option autoImplicit false

namespace Errand.Json

/-- Why a value does not have the shape that was asked for. -/
inductive ShapeError
  | missingField (name : String)
  | duplicateField (name : String)
  | unknownVariant (name : String) (known : List String)
  | invalidType (found expected : String)
  | invalidValue (found expected : String)
  | invalidLength (length : Nat) (expected : String)
  | custom (message : String)
deriving DecidableEq, Repr

/-- A name between backquotes. -/
def tick (name : String) : String :=
  "\x60" ++ name ++ "\x60"

/-- The known names of a variant, as a message lists them. -/
def knownNames : List String → String
  | [] => "there are no variants"
  | [a] => "expected " ++ tick a
  | [a, b] => "expected " ++ tick a ++ " or " ++ tick b
  | names => "expected one of " ++ String.intercalate ", " (names.map tick)

/-- The wording of a fault. -/
def ShapeError.message : ShapeError → String
  | .missingField name => "missing field " ++ tick name
  | .duplicateField name => "duplicate field " ++ tick name
  | .unknownVariant name known => "unknown variant " ++ tick name ++ ", " ++ knownNames known
  | .invalidType found expected => "invalid type: " ++ found ++ ", expected " ++ expected
  | .invalidValue found expected => "invalid value: " ++ found ++ ", expected " ++ expected
  | .invalidLength length expected =>
    "invalid length " ++ toString length ++ ", expected " ++ expected
  | .custom message => message

/-- Why decoding fails. -/
inductive DecodeError
  /-- The text is no JSON. -/
  | flaw (flaw : Flaw)
  /-- The value has another shape. -/
  | shape (error : ShapeError)
deriving DecidableEq, Repr

/-- The wording of a failure; a flaw of the text has none. -/
def DecodeError.message : DecodeError → String
  | .flaw _ => ""
  | .shape error => error.message

/-- Where a value is decoded: from text, where nesting is limited, or from a value that has already
been read. -/
structure Place where
  /-- Whether the value is still text. -/
  fromText : Bool
  /-- How many containers it stands in. -/
  depth : Nat := 0

/-- Inside a container. -/
def Place.deeper (place : Place) : Place :=
  { place with depth := place.depth + 1 }

/-- A decoder for one shape. -/
abbrev Decoder (α : Type) := Place → Source → Except DecodeError α

/-- A failure of shape. -/
def wrongShape {α : Type} (error : ShapeError) : Except DecodeError α :=
  .error (.shape error)

/-- Lifts a flaw of the text. -/
def orFlaw {α : Type} : Except Flaw α → Except DecodeError α
  | .ok a => .ok a
  | .error flaw => .error (.flaw flaw)

/-- A number, as messages name it. -/
def Number.describe (n : Number) : String :=
  match n with
  | .int _ => "integer " ++ tick (String.ofList (writeNumber n))
  | .real _ => "floating point " ++ tick (String.ofList (writeNumber n))

/-- What stands in place of the expected shape. Looking at it may meet a flaw of the text. -/
def describe : Source → Except DecodeError String
  | .null => .ok "null"
  | .bool b => .ok ("boolean " ++ tick (toString b))
  | .num (some n) => .ok n.describe
  | .num none => .error (.flaw .malformed)
  | .str literal => do
    let text ← orFlaw literal.decoded
    return "string " ++ Text.quoted text
  | .arr _ _ => .ok "sequence"
  | .obj _ _ => .ok "map"
  | .broken decoding _ _ => .error (.flaw decoding)

/-- Reports that another kind of value was expected. -/
def mismatch {α : Type} (expected : String) (source : Source) : Except DecodeError α := do
  let found ← describe source
  wrongShape (.invalidType found expected)

/-- Refuses a container in a text that is nested too deeply. -/
def Place.enter (place : Place) : Except DecodeError Unit :=
  if place.fromText then orFlaw (Source.enter place.depth) else .ok ()

namespace Decode

/-- A text, described as expected by the caller. -/
def text (expected : String) : Decoder String
  | _, .str literal => orFlaw literal.decoded
  | _, source => mismatch expected source

/-- A string. -/
def string : Decoder String :=
  text "a string"

/-- A truth value. -/
def bool : Decoder Bool
  | _, .bool b => .ok b
  | _, source => mismatch "a boolean" source

/-- A natural number below a bound. -/
def natBelow (bound : Nat) (name : String) : Decoder Nat
  | _, .num (some (.int n)) =>
    if 0 ≤ n ∧ n < bound then .ok n.toNat
    else wrongShape (.invalidValue (Number.describe (.int n)) name)
  | _, source => mismatch name source

/-- A count: a natural number of 64 bits. -/
def usize : Decoder Nat :=
  natBelow (Nat.pow 2 64) "usize"

/-- A natural number of 64 bits. -/
def u64 : Decoder Nat :=
  natBelow (Nat.pow 2 64) "u64"

/-- A natural number of 32 bits. -/
def u32 : Decoder Nat :=
  natBelow (Nat.pow 2 32) "u32"

/-- A natural number of 16 bits. -/
def u16 : Decoder Nat :=
  natBelow (Nat.pow 2 16) "u16"

/-- Any number, as a binary number of 64 bits. -/
def number (name : String) : Decoder Errand.Number.Binary
  | _, .num (some (.real x)) => .ok x
  | _, .num (some (.int n)) =>
    match Errand.Number.Binary.ofInt .double n with
    | some x => .ok x
    | none => .error (.flaw .malformed)
  | _, source => mismatch name source

/-- A binary number of 64 bits. -/
def f64 : Decoder Errand.Number.Binary :=
  number "f64"

/-- A number of 32 bits: the nearest to a whole number, or a number of 64 bits rounded again. -/
def f32 : Decoder Errand.Number.Single
  | _, .num (some (.int n)) => .ok (.ofInt n)
  | place, source => .ofDouble <$> number "f32" place source

/-- Any value. -/
def any : Decoder Json := fun place source =>
  if place.fromText then orFlaw (source.toJson place.depth)
  else orFlaw (source.toJson 0)

/-- Null, or what another decoder accepts. -/
def option {α : Type} (decoder : Decoder α) : Decoder (Option α)
  | _, .null => .ok none
  | place, source => some <$> decoder place source

/-- Items in order. -/
def items {α : Type} (decoder : Decoder α) (place : Place) :
    List Source → Except DecodeError (List α)
  | [] => .ok []
  | item :: rest => do
    let item ← decoder place item
    let rest ← items decoder place rest
    return item :: rest

/-- An array. -/
def list {α : Type} (decoder : Decoder α) : Decoder (List α)
  | place, .arr sources ending => do
    place.enter
    let decoded ← items decoder place.deeper sources
    match ending with
    | none => return decoded
    | some flaw => .error (.flaw flaw)
  | _, source => mismatch "a sequence" source

/-- Entries of a map in order. -/
def entries {α : Type} (decoder : Decoder α) (place : Place) :
    List (Literal × Source) → Except DecodeError (List (String × α))
  | [] => .ok []
  | (key, value) :: rest => do
    let key ← orFlaw key.decoded
    let value ← decoder place value
    let rest ← entries decoder place rest
    return (key, value) :: rest

/-- An object with any keys, as the list of its entries, repetitions included. -/
def map {α : Type} (decoder : Decoder α) : Decoder (List (String × α))
  | place, .obj fields ending => do
    place.enter
    let decoded ← entries decoder place.deeper fields
    match ending with
    | none => return decoded
    | some flaw => .error (.flaw flaw)
  | _, source => mismatch "a map" source

/-- The value that stands for nothing. -/
def unit : Decoder Unit
  | _, .null => .ok ()
  | _, source => mismatch "unit" source

/-- One of several names. It may also be written as an object whose one key is the name and whose
value is null. -/
def variant {α : Type} (known : List (String × α)) : Decoder α := fun place source =>
  let named (name : String) : Except DecodeError α :=
    match known.lookup name with
    | some a => .ok a
    | none => wrongShape (.unknownVariant name (known.map (·.1)))
  match source with
  | .str literal => do named (← orFlaw literal.decoded)
  | .obj fields ending =>
    if place.fromText then
      match fields with
      | [] => .error (.flaw (ending.getD .malformed))
      | (key, value) :: rest => do
        place.enter
        let a ← named (← orFlaw key.decoded)
        let _ ← unit place.deeper value
        if rest.isEmpty then
          match ending with
          | none => return a
          | some flaw => .error (.flaw flaw)
        else .error (.flaw .malformed)
    else
      match fields with
      | [(key, value)] => do
        let a ← named (← orFlaw key.decoded)
        let _ ← unit place.deeper value
        return a
      | _ => wrongShape (.invalidValue "map" "map with a single key")
  | .broken _ _ naming => .error (.flaw naming)
  | source =>
    if place.fromText then .error (.flaw .malformed)
    else mismatch "string or map" source

end Decode

/-! ### Objects of known shape -/

/-- A fault and the position of the entry that it belongs to. -/
abbrev Located := Nat × DecodeError

/-- What comes of decoding fields: a result, or the earliest fault. -/
abbrev Checked (α : Type) := Except Located α

/-- The earlier of two faults, the first if they are level. -/
def earlier (a b : Located) : Located :=
  if b.1 < a.1 then b else a

/-- Combines two results, or keeps the earlier fault. -/
def Checked.both {α β γ : Type} (combine : α → β → γ) : Checked α → Checked β → Checked γ
  | .ok a, .ok b => .ok (combine a b)
  | .error e, .ok _ => .error e
  | .ok _, .error e => .error e
  | .error e, .error e' => .error (earlier e e')

/-- What a shape finds under a name: an entry at a position, or what its absence means. -/
inductive Found
  | entry (position : Nat) (source : Source)
  /-- Absent from an object, noticed at a position. -/
  | absent (position : Nat)
  /-- Beyond the end of an array, at a position; with the flaw that ends the array, or the fault
  that reports its length. -/
  | beyond (position : Nat) (fault : DecodeError)

/-- Some of the fields of a shape, in order, and how to decode them. -/
structure Fields (α : Type) where
  /-- The names of the fields, in order of declaration. -/
  names : List String
  /-- Decodes the fields, given where they are found. -/
  decode : Place → (String → Found) → Checked α

namespace Fields

/-- No fields. -/
def done {α : Type} (a : α) : Fields α :=
  ⟨[], fun _ _ => .ok a⟩

/-- One field more. -/
def and {α β : Type} (f : Fields (α → β)) (x : Fields α) : Fields β :=
  ⟨f.names ++ x.names,
    fun place look => (f.decode place look).both (fun g a => g a) (x.decode place look)⟩

/-- Decodes an entry at its position. -/
def atEntry {α : Type} (decoder : Decoder α) (place : Place) (position : Nat) (source : Source) :
    Checked α :=
  (decoder place source).mapError fun e => (position, e)

/-- A field that has to be there. -/
def required {α : Type} (name : String) (decoder : Decoder α) : Fields α :=
  ⟨[name], fun place look =>
    match look name with
    | .entry position source => atEntry decoder place position source
    | .absent position => .error (position, .shape (.missingField name))
    | .beyond position fault => .error (position, fault)⟩

/-- A field that an object may leave out, and an array may not. -/
def optional {α : Type} (name : String) (decoder : Decoder α) : Fields (Option α) :=
  ⟨[name], fun place look =>
    match look name with
    | .entry position source => atEntry (Decode.option decoder) place position source
    | .absent _ => .ok none
    | .beyond position fault => .error (position, fault)⟩

/-- A field that may be left out and then has a value of its own. An array may only leave out
fields at its end; where a flaw of the text ends it, the flaw is met. -/
def withDefault {α : Type} (name : String) (decoder : Decoder α) (value : α) : Fields α :=
  ⟨[name], fun place look =>
    match look name with
    | .entry position source => atEntry decoder place position source
    | .absent _ => .ok value
    | .beyond position (.flaw flaw) => .error (position, .flaw flaw)
    | .beyond _ (.shape _) => .ok value⟩

/-- A field that may be left out or null. -/
def nullable {α : Type} (name : String) (decoder : Decoder α) : Fields (Option α) :=
  withDefault name (Decode.option decoder) none

end Fields

/-- The faults of the entries of an object apart from the values of its known fields: flawed keys,
repeated fields, unknown fields that cannot be skipped. The first of them, if any. -/
def entryFault (known : List String) (seen : List String) (position : Nat) (ending : Option Flaw) :
    List (Literal × Source) → Option Located
  | [] => ending.map fun flaw => (position, .flaw flaw)
  | (key, value) :: rest =>
    match key.decoded with
    | .error flaw => some (position, .flaw flaw)
    | .ok name =>
      if known.contains name then
        if seen.contains name then some (position, .shape (.duplicateField name))
        else entryFault known (name :: seen) (position + 1) ending rest
      else
        match value.skipFlaw with
        | some flaw => some (position, .flaw flaw)
        | none => entryFault known seen (position + 1) ending rest

/-- The first entry with a key. -/
def findEntry (name : String) (position : Nat) : List (Literal × Source) → Option (Nat × Source)
  | [] => none
  | (key, value) :: rest =>
    match key.decoded with
    | .ok k => if k = name then some (position, value) else findEntry name (position + 1) rest
    | .error _ => findEntry name (position + 1) rest

/-- An object shape as messages name it, with the number of its fields. -/
def withElements (name : String) (count : Nat) : String :=
  name ++ " with " ++ toString count ++ (if count = 1 then " element" else " elements")

/-- A shape with named fields, given as an object, or as an array of the fields in order. -/
def Fields.decoder {α : Type} (name : String) (fields : Fields α) : Decoder α :=
  fun place source =>
    match source with
    | .obj sources ending => do
      place.enter
      let look (field : String) : Found :=
        match findEntry field 0 sources with
        | some (position, value) => .entry position value
        | none => .absent (sources.length + 1)
      let outcome := fields.decode place.deeper look
      let fault := entryFault fields.names [] 0 ending sources
      match outcome, fault with
      | .ok a, none => return a
      | .error e, none => .error e.2
      | .ok _, some e => .error e.2
      | .error e, some e' => .error (earlier e e').2
    | .arr items ending => do
      place.enter
      let look (field : String) : Found :=
        let position := fields.names.idxOf field
        match items[position]?, ending with
        | some item, _ => .entry position item
        | none, some flaw => .beyond position (.flaw flaw)
        | none, none =>
          .beyond position
            (.shape (.invalidLength position (withElements name fields.names.length)))
      match fields.decode place.deeper look with
      | .error e => .error e.2
      | .ok a =>
        if fields.names.length < items.length then
          if place.fromText then .error (.flaw .malformed)
          else wrongShape (.invalidLength items.length "fewer elements in array")
        else
          match ending with
          | none => return a
          | some flaw => .error (.flaw flaw)
    | source => mismatch name source

/-- Decodes a value that has already been read. -/
def decodeValue {α : Type} (decoder : Decoder α) (value : Json) : Except ShapeError α :=
  match decoder { fromText := false } (.ofJson value) with
  | .ok a => .ok a
  | .error (.shape error) => .error error
  | .error (.flaw _) => .error (.custom "")

/-- Decodes a whole text. -/
def decodeText {α : Type} (decoder : Decoder α) (text : List Char) : Except DecodeError α :=
  let document := readDocument text
  match decoder { fromText := true } document.root, document.trailing with
  | .ok a, none => .ok a
  | .ok _, some flaw => .error (.flaw flaw)
  | .error error, _ => .error error

end Errand.Json
