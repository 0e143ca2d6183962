import Errand.Operation.Basic
import Errand.Text.Blank

/-!
# The registry of operations

Operations by name, in the order of their registration. The first operation of a name keeps it. A
blank name is refused, and so is the name that stands for the language model itself.
-/

set_option autoImplicit false

namespace Errand

/-- The name by which a step sends its parameters to the language model. -/
def modelName : String := "LLM"

/-- Operations in the order of their registration. -/
structure Registry (σ : Type) where
  /-- The operations. -/
  operations : List (Operation σ) := []

namespace Registry

variable {σ : Type}

/-- The operation of a name. -/
def get? (registry : Registry σ) (name : String) : Option (Operation σ) :=
  registry.operations.find? (·.name == name)

/-- Whether there is an operation of a name. -/
def contains (registry : Registry σ) (name : String) : Bool :=
  registry.operations.any (·.name == name)

/-- The names, in order of registration. -/
def names (registry : Registry σ) : List String :=
  registry.operations.map (·.name)

/-- What a planner is told, in order of registration. -/
def catalog (registry : Registry σ) : List Operation.Info :=
  registry.operations.map (·.info)

/-- The number of operations. -/
def size (registry : Registry σ) : Nat :=
  registry.operations.length

/-- Adds an operation. -/
def register (registry : Registry σ) (operation : Operation σ) : Except Fault (Registry σ) :=
  if Text.isAllBlank operation.name then
    .error (.validation "Operation name cannot be empty")
  else if operation.name = modelName then
    .error (.validation ("Operation name '" ++ modelName ++ "' is reserved"))
  else if registry.contains operation.name then
    .error (.conflict ("Operation '" ++ operation.name ++ "' is already registered"))
  else
    .ok { operations := registry.operations ++ [operation] }

/-- Adds operations one after another, up to the first that is refused. -/
def registerAll (registry : Registry σ) (operations : List (Operation σ)) :
    Except Fault (Registry σ) :=
  operations.foldlM register registry

end Registry

end Errand
