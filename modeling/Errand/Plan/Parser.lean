import Errand.Plan.Basic
import Errand.Text.Pattern
import Errand.Text.Word

/-!
# Reading a plan from prose

A planner writes prose in which units of the form

    Plan 1: Find the user called John
    #E1 = SearchUserByName[{"name": "John"}]

are embedded. Headings, emphasis and blanks around the parts of a unit are tolerated; the title is
the shortest one that leaves a whole unit. The parameters are a group of braces that holds at most
one further level of them.

A plan is only accepted as a whole: every unit needs its parts, and every text that can only start a
unit, such as `#E2 =` or `Plan 2:`, has to lie inside a unit that was recognised.
-/

set_option autoImplicit false

namespace Errand.Plan

open Text (Pattern isBlank isDigit isWord)
open Text.Pattern (all char literal optional oneOrMore capture)

/-! ### The patterns -/

/-- Any number of blanks, as many as possible. -/
def blanks : Pattern :=
  .many (.one isBlank)

/-- Any number of digits, as many as possible. -/
def digits : Pattern :=
  .many (.one isDigit)

/-- The mark of strong emphasis, or nothing. -/
def emphasis : Pattern :=
  optional (literal "**")

/-- The heading of a unit: `## Plan 1:` with the number and the colon optional, or `Plan 1:` with
the number optional. -/
def heading : Pattern :=
  .either
    (all [literal "##", blanks, literal "Plan", blanks, digits, optional (char ':')])
    (all [literal "Plan", blanks, digits, char ':'])

/-- A step id: `#E` and digits. -/
def stepId : Pattern :=
  all [literal "#E", oneOrMore (.one isDigit)]

/-- A character other than a brace. -/
def noBrace : Pattern :=
  .one fun c => c != '\x7b' && c != '\x7d'

/-- A group of braces with groups of braces in it, which hold none themselves. -/
def parameters : Pattern :=
  all [char '\x7b', .many (.either noBrace (all [char '\x7b', .many noBrace, char '\x7d'])),
    char '\x7d']

/-- A unit. Its title, step id, operation and parameters are captured between the marks 1 and 2,
3 and 4, 5 and 6, 7 and 8. -/
def unit : Pattern :=
  all [optional heading, blanks, emphasis, optional (literal "Plan:"), emphasis, blanks,
    capture 1 2 (.few (.one (· != '\n'))),
    .many (.either (char '\n') (.seq blanks (literal "**"))), blanks, emphasis,
    optional (capture 3 4 stepId), blanks, optional (char '='), blanks,
    capture 5 6 (oneOrMore (.one isWord)), blanks, char '[', blanks,
    capture 7 8 parameters, blanks, char ']']

/-- A text that only the start of a unit has. -/
def unitMarker : Pattern :=
  .either (all [stepId, blanks, char '='])
    (all [literal "Plan", blanks, oneOrMore (.one isDigit), blanks, char ':'])

/-- Markup that may be left at the start of a title. -/
def titleMarkup : Pattern :=
  all [optional (.seq (oneOrMore (char '#')) blanks), emphasis, blanks,
    optional (all [literal "Plan", blanks, digits, blanks, char ':']), blanks, emphasis]

/-! ### Reading -/

/-- A title without markup and blanks around it. A title that would vanish keeps its markup, without
the asterisks around it. -/
def cleanTitle (raw : List Char) : List Char :=
  let trimmed := Text.trim raw
  let rest := match titleMarkup.stopAtStart trimmed with
    | some stop => trimmed.drop (trimmed.length - stop)
    | none => trimmed
  let cleaned := Text.trim (Text.dropEndWhile (· == '*') (Text.trim rest))
  if cleaned.isEmpty then Text.trim (Text.stripWhile (· == '*') trimmed) else cleaned

/-- The step of a recognised unit. -/
def stepOf (text : List Char) (unit : Pattern.Match) : Except PlanFault Step :=
  let title := cleanTitle (unit.group text 1 2)
  let operation := Text.trim (unit.group text 5 6)
  let template := Text.trim (unit.group text 7 8)
  if title.isEmpty || operation.isEmpty || template.isEmpty then
    .error (.malformedUnit (String.ofList (Text.trim (unit.text text))))
  else
    .ok { title := String.ofList title, id := String.ofList (Text.trim (unit.group text 3 4)),
          operation := String.ofList operation, template := String.ofList template }

/-- Whether a match starts inside another one. -/
def startsInside (inner outer : Pattern.Match) : Bool :=
  inner.start ≤ outer.start && outer.stop < inner.start

/-- The line of a text in which a position lies, without blanks around it. -/
def lineAt (text : List Char) (left : Nat) : List Char :=
  let before := text.take (text.length - left)
  let after := text.drop (text.length - left)
  let start := (before.reverse.takeWhile (· != '\n')).reverse
  Text.trim (start ++ after.takeWhile (· != '\n'))

/-- Reads a plan. -/
def parse (rawText : String) : Except PlanFault Plan := do
  let text := rawText.toList
  let units := unit.findAll text
  let steps ← units.mapM (stepOf text)
  match (unitMarker.findAll text).find? fun marker => !units.any (startsInside marker) with
  | some marker => .error (.unrecognisedUnit (String.ofList (lineAt text marker.start)))
  | none => check steps rawText

end Errand.Plan
