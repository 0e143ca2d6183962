/-!
# Scripts

A script says beforehand what somebody will do, one entry for each time. The last entry is repeated
for ever.
-/

set_option autoImplicit false

namespace Errand.Rehearsal

/-- What somebody will do. -/
structure Script (α : Type) where
  /-- The entries that are left. -/
  entries : List α := []
deriving Repr

/-- The entry that is due, if the script has any, and the script from then on. -/
def Script.next {α : Type} (script : Script α) : Option α × Script α :=
  match script.entries with
  | [] => (none, script)
  | [entry] => (some entry, script)
  | entry :: rest => (some entry, ⟨rest⟩)

end Errand.Rehearsal
