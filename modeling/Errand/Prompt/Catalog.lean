import Errand.Operation.Basic

/-!
# The catalog in a prompt

A planner is shown the operations as numbered lines with a signature and the description. The
signature lists the parameters that the schema names, with a question mark after those that may be
left out.
-/

set_option autoImplicit false

namespace Errand.Prompt

/-- The name of a type as signatures show it, given the type of the items if there is any. -/
def shownType (name : String) (items : Option String) : String :=
  if name = "integer" then "number"
  else if name = "array" then items.getD "any" ++ "[]"
  else name

/-- The first type of a schema that is not null. -/
def primaryType (schema : Json) : String :=
  match schema.field? "type" with
  | some (.str name) => name
  | some (.arr names) => ((names.filterMap Json.str?).find? (· != "null")).getD "any"
  | _ => "any"

mutual

/-- The type that a schema describes. -/
def typeName : Json → String
  | .obj fields => shownType (primaryType (.obj fields)) (itemType fields)
  | _ => "any"

/-- The type of the items that the fields of a schema describe. -/
def itemType : List (String × Json) → Option String
  | [] => none
  | (key, value) :: rest => if key = "items" then some (typeName value) else itemType rest

end

/-- The parameters that a schema names. -/
def signature (schema : Json) : String :=
  match (schema.field? "properties").bind Json.fields? with
  | none => ""
  | some properties =>
    let required :=
      (((schema.field? "required").bind Json.items?).getD []).filterMap Json.str?
    String.intercalate ", " <| properties.map fun (name, property) =>
      name ++ (if required.contains name then "" else "?") ++ ": " ++ typeName property

/-- The operations, one numbered line each. -/
def catalog (operations : List Operation.Info) : String :=
  String.intercalate "\n" <| operations.zipIdx.map fun (info, index) =>
    "(" ++ toString (index + 1) ++ ") " ++ info.name ++ "(" ++ signature info.parameters ++ "): " ++
      info.description

end Errand.Prompt
