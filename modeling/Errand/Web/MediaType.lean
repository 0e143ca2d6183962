import Errand.Web.Target

/-!
# Media types

A media type says what a body is: a kind, what it is of that kind, and after the last plus sign the
format that it is built on. Parameters follow, each after a semicolon: a name, an equals sign, and a
token or something between quotes. Spaces may stand only before a name and after a closing quote.
-/

set_option autoImplicit false

namespace Errand.Web

/-- A media type without its parameters, in lower case. -/
structure MediaType where
  /-- The kind. -/
  kind : String
  /-- What it is of that kind. -/
  sub : String
  /-- The format that it is built on. -/
  base : Option String
deriving DecidableEq, Repr

namespace MediaType

open Target (isTokenChar)

/-- What follows a value between quotes, from after the opening quote on. The value is not empty,
and its first character may be a quote. -/
def afterQuoted? (text : List Char) : Option (List Char) :=
  let isInside (c : Char) : Bool := 31 < c.toNat && c.toNat != 127
  match text with
  | [] => none
  | first :: rest =>
    let inside := rest.takeWhile (· != '"')
    match rest.drop inside.length with
    | [] => none
    | _ :: after => if isInside first && inside.all isInside then some after else none

/-- What follows a parameter and its semicolon; nothing follows the last one. -/
def afterParameter? (text : List Char) : Option (List Char) :=
  let name := text.takeWhile isTokenChar
  match text.drop name.length with
  | '=' :: '"' :: rest => do
    let after ← if name.isEmpty then none else afterQuoted? rest
    match after.dropWhile (· == ' ') with
    | [] => some []
    | ';' :: rest => some rest
    | _ => none
  | '=' :: rest =>
    let value := rest.takeWhile isTokenChar
    match rest.drop value.length with
    | [] => if name.isEmpty then none else some []
    | ';' :: after => if name.isEmpty || value.isEmpty then none else some after
    | _ => none
  | _ => none

/-- Whether a text is a list of parameters, from after the first semicolon on. A parameter takes
more than one character, so `fuel` need not exceed the length of the text. -/
def areParameters : (fuel : Nat) → List Char → Bool
  | 0, text => text.isEmpty
  | fuel + 1, text =>
    match text.dropWhile (· == ' ') with
    | [] => true
    | text => (afterParameter? text).any (areParameters fuel)

/-- What a media type is of its kind, and the format it is built on. A plus sign at the start
separates nothing. -/
def splitBase (sub : List Char) : List Char × Option (List Char) :=
  let base := sub.reverse.takeWhile (· != '+')
  let front := sub.take (sub.length - base.length - 1)
  if front.isEmpty then (sub, none) else (front, some base.reverse)

/-- The media type that a text declares. -/
def parse? (text : String) : Option MediaType :=
  let lower (part : List Char) : String := String.ofList (part.map Char.toLower)
  let kind := text.toList.takeWhile isTokenChar
  match text.toList.drop kind.length with
  | '/' :: rest =>
    let sub := rest.takeWhile isTokenChar
    let whole : Option MediaType :=
      let (front, base) := splitBase sub
      some { kind := lower kind, sub := lower front, base := base.map lower }
    if kind.isEmpty then none
    else
      match rest.drop sub.length with
      | [] => whole
      | ';' :: parameters =>
        if !sub.isEmpty && areParameters parameters.length parameters then whole else none
      | _ => none
  | _ => none

/-- Whether bodies of a type are JSON. -/
def isJson (type : MediaType) : Bool :=
  type.kind == "application" && (type.sub == "json" || type.base == some "json")

end MediaType

/-- Whether a declared type is JSON. A declaration has only characters that can be seen, spaces and
tabs. -/
def isJsonType (declared : String) : Bool :=
  declared.toList.all (fun c => c == '\t' || (31 < c.toNat && c.toNat < 127)) &&
    (MediaType.parse? declared).any MediaType.isJson

end Errand.Web
