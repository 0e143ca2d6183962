import Errand.Operation.Basic

/-!
# Schemas of parameters

The JSON schema of an object of parameters. It lists the parameters by name, each with what it is
for, its default if it may be left out, and its type; and the names of those that may not be left
out.
-/

set_option autoImplicit false

namespace Errand.Operation

/-- The types that parameters have. -/
inductive ParameterType
  /-- A text. -/
  | text
  /-- A list of texts. -/
  | texts
  /-- A count, which may be left out. -/
  | optionalCount
deriving DecidableEq, Repr

/-- A parameter. -/
structure Parameter where
  /-- The name. -/
  name : String
  /-- The type. -/
  type : ParameterType
  /-- What it is for. -/
  description : Option String := none
deriving DecidableEq, Repr

namespace Parameter

/-- Whether a parameter may not be left out. -/
def isRequired (parameter : Parameter) : Bool :=
  parameter.type != .optionalCount

/-- The schema of the type. -/
def typeFields : ParameterType → List (String × Json)
  | .text => [("type", .str "string")]
  | .texts => [("type", .str "array"), ("items", .obj [("type", .str "string")])]
  | .optionalCount =>
    [("default", .null), ("type", .arr [.str "integer", .str "null"]), ("format", .str "uint"),
      ("minimum", .real ⟨false, 0, 0⟩)]

/-- The schema of a parameter. -/
def schema (parameter : Parameter) : Json :=
  .obj ((parameter.description.map fun text => ("description", Json.str text)).toList ++
    typeFields parameter.type)

end Parameter

/-- The language of the schemas. -/
def schemaLanguage : String :=
  "http://" ++ "json-schema.org/draft-07/schema#"

/-- The schema of parameters under a title. -/
def schema (title : String) (parameters : List Parameter) : Json :=
  let sorted := parameters.mergeSort fun a b => a.name ≤ b.name
  .obj [("$schema", .str schemaLanguage), ("title", .str title), ("type", .str "object"),
    ("required", .arr ((sorted.filter (·.isRequired)).map fun parameter => .str parameter.name)),
    ("properties", .obj (sorted.map fun parameter => (parameter.name, parameter.schema)))]

end Errand.Operation
