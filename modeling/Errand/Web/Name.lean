import Errand.Text.Direction
import Errand.Text.Folding
import Errand.Text.Joining
import Errand.Text.Search
import Errand.Web.Punycode

/-!
# Names of hosts

A name of a host consists of labels with points between them and may be given in any script. It is
folded and composed, and each label beyond ASCII is then written in ASCII, after a mark. A label
that comes with that mark has to stand for one that needs it, and for one that folding leaves alone.
A label does not begin with a combining character, its joiners have their place, and if a script
from the right takes part in a name, each of its labels keeps to one direction.
-/

set_option autoImplicit false

namespace Errand.Web.Name

/-- A label of a name. -/
abbrev Label := List Char

/-- A character of ASCII that cannot stand in a name. -/
def isForbidden (c : Char) : Bool :=
  c.toNat ≤ 0x20 || c.toNat == 0x7F || "#/:<>?@[\\]^|%".toList.contains c

/-- Whether a label is in ASCII. -/
def isAscii (label : Label) : Bool :=
  label.all (·.toNat < 0x80)

/-- A text folded and composed; none if a character of it cannot be. -/
def folded? (text : List Char) : Option (List Char) := do
  return Text.compose (← text.mapM Text.fold?).flatten

/-! ### Labels -/

/-- What a label begins with that is written in ASCII and stands for another one. -/
def mark : List Char :=
  "xn--".toList

/-- How many characters may follow the mark. -/
def maxMarkedLength : Nat := 2000

/-- How many characters a label beyond ASCII may have. -/
def maxLength : Nat := 1000

/-- The label that a folded one stands for. -/
def unmarked? (label : Label) : Option Label :=
  if mark.isPrefixOf label then do
    let digits := label.drop mark.length
    if maxMarkedLength < digits.length then none
    let name ← Punycode.decode? digits
    if isAscii name ∨ folded? name ≠ some name ∨ Punycode.encode name ≠ digits then none
    else return name
  else some label

/-- Whether a label may be part of a name. -/
def isSound (label : Label) : Bool :=
  !label.any isForbidden && !label.head?.any Text.isMark && Text.keepsJoiners [] label &&
    (isAscii label || label.length ≤ maxLength)

/-- A label in ASCII. -/
def labelToAscii (label : Label) : List Char :=
  if isAscii label then label else mark ++ Punycode.encode label

/-! ### Names -/

/-- The labels of a name, folded. -/
def labels? (text : List Char) : Option (List Label) := do
  let labels ← (Text.parts '.' (← folded? text)).mapM unmarked?
  let directions := labels.map (·.map Text.direction)
  let directed := !directions.any Text.hasRight || directions.all Text.keepsDirection
  if labels.all isSound && directed then return labels else none

/-- A name in ASCII; none if the text is no name. -/
def toAscii? (text : List Char) : Option (List Char) := do
  let labels ← labels? text
  return ['.'].intercalate (labels.map labelToAscii)

end Errand.Web.Name
