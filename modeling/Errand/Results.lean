import Errand.Entries
import Errand.Text.Search

/-!
# Results of steps

The outputs of the steps that succeeded, by step id. A step that uses an id again replaces the
output and keeps the place of the id, so the last entry belongs to the id whose first use came
latest. `resolve` puts outputs into a template of parameters: it visits the entries in order and
replaces every occurrence of an id by its output. The replacement is textual. The id `#E1` is also
found at the start of `#E10`, ids in outputs inserted earlier are replaced too, and ids without an
output stay as they are.
-/

set_option autoImplicit false

namespace Errand

/-- Outputs by step id, in the order of the first use of the ids. -/
structure Results where
  /-- The ids and outputs. -/
  entries : List (String × String)
  /-- No id stands twice. -/
  nodup : (Entries.names entries).Nodup
deriving DecidableEq, Repr

namespace Results

/-- No outputs. -/
def empty : Results :=
  ⟨[], List.nodup_nil⟩

instance : Inhabited Results := ⟨empty⟩

/-- Records an output. -/
def insert (results : Results) (id output : String) : Results :=
  ⟨Entries.set id output results.entries, Entries.nodup_names_set results.nodup⟩

/-- Records outputs one after another. -/
def ofList (entries : List (String × String)) : Results :=
  entries.foldl (fun results entry => results.insert entry.1 entry.2) empty

/-- The output under an id. -/
def get? (results : Results) (id : String) : Option String :=
  results.entries.lookup id

/-- Whether an id has an output. -/
def contains (results : Results) (id : String) : Bool :=
  (results.get? id).isSome

/-- The entry whose id was used first latest. -/
def last? (results : Results) : Option (String × String) :=
  results.entries.getLast?

/-- The number of ids. -/
def size (results : Results) : Nat :=
  results.entries.length

/-- Whether two results have the same entries, in any order. -/
def sameEntries (a b : Results) : Bool :=
  a.size == b.size && a.entries.all fun entry => b.get? entry.1 == some entry.2

/-- A template with one id replaced by its output; the empty id stands for nothing. -/
def substitute (template : List Char) (entry : String × String) : List Char :=
  Text.replace entry.1.toList entry.2.toList template

/-- A template with the ids replaced by their outputs, one entry after another. -/
def resolve (results : Results) (template : String) : String :=
  String.ofList (results.entries.foldl substitute template.toList)

end Results

end Errand
