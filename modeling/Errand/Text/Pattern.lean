/-!
# Patterns and their preferred matches

A pattern describes texts, and also an order of preference among the ways to match one: a choice
prefers its first side, `many` prefers to go on, `few` prefers to stop. `Pattern.run` is that
meaning. It is given what remains to be matched as a continuation, tries the ways to match in order
and keeps the first one with which the rest succeeds. Positions are counted from the end of the
text, as the number of characters left.

Trying again at every position what was tried before is slow, so a text is searched from its end to
its start. What a pattern followed by a rest comes to at a position depends only on the next
character and on what its parts came to one position later, and `Pattern.step` keeps just that.
-/

set_option autoImplicit false

namespace Errand.Text

/-- A description of texts. -/
inductive Pattern where
  /-- The empty text. -/
  | empty
  /-- One character of a class. -/
  | one (accepts : Char → Bool)
  /-- The empty text; its position is noted under a number. -/
  | mark (number : Nat)
  /-- One pattern and then another. -/
  | seq (first second : Pattern)
  /-- One pattern or, failing that, another. -/
  | either (first second : Pattern)
  /-- As many repetitions as possible, none of them empty. -/
  | many (repeated : Pattern)
  /-- As few repetitions as possible, none of them empty. -/
  | few (repeated : Pattern)

/-- Marks and where they stand, as characters left. -/
abbrev Marks := List (Nat × Nat)

/-- What remains to be matched, from a position on. -/
abbrev Continue := Nat → List Char → Option Marks

namespace Pattern

/-- Repeats a step as long as it moves on. `greedy` says whether another repetition is tried before
the rest or after it. A repetition takes a character, so there are at most as many as are left. -/
def iterate (greedy : Bool) (step : Continue → Continue) (rest : Continue) :
    (fuel : Nat) → Continue
  | 0, left, text => rest left text
  | fuel + 1, left, text =>
    let again (l : Nat) (t : List Char) : Option Marks :=
      if l < left then iterate greedy step rest fuel l t else none
    if greedy then (step again left text).or (rest left text)
    else (rest left text).or (step again left text)

/-- The marks of the preferred match of a pattern with what follows it. -/
def run : Pattern → Continue → Continue
  | .empty, rest, left, text => rest left text
  | .one _, _, _, [] => none
  | .one accepts, rest, left, c :: text => if accepts c then rest (left - 1) text else none
  | .mark number, rest, left, text => (rest left text).map ((number, left) :: ·)
  | .seq p q, rest, left, text => p.run (q.run rest) left text
  | .either p q, rest, left, text => (p.run rest left text).or (q.run rest left text)
  | .many p, rest, left, text => iterate true p.run rest left left text
  | .few p, rest, left, text => iterate false p.run rest left left text

/-! ### From the end of a text to its start -/

/-- What a pattern keeps of one position for the position before it: for each of its characters,
what came of the rest after that character. -/
def Memory : Pattern → Type
  | .empty | .mark _ => Unit
  | .one _ => Option Marks
  | .seq p q | .either p q => p.Memory × q.Memory
  | .many p | .few p => p.Memory

/-- What is kept at first. -/
def noMemory : (p : Pattern) → p.Memory
  | .empty | .mark _ => ()
  | .one _ => none
  | .seq p q | .either p q => (p.noMemory, q.noMemory)
  | .many p | .few p => p.noMemory

/-- What a pattern comes to at a position, and what it keeps of it, given what the rest comes to at
this position. A repetition that begins here may not end here; one that began earlier may. -/
def step (left : Nat) (next : Option Char) :
    (p : Pattern) → p.Memory → Option Marks → Option Marks × p.Memory
  | .empty, _, rest => (rest, ())
  | .one accepts, later, rest => (if next.any accepts then later else none, rest)
  | .mark number, _, rest => (rest.map ((number, left) :: ·), ())
  | .seq p q, (kept, kept'), rest =>
    let (second, kept') := q.step left next kept' rest
    let (first, kept) := p.step left next kept second
    (first, kept, kept')
  | .either p q, (kept, kept'), rest =>
    let (first, kept) := p.step left next kept rest
    let (second, kept') := q.step left next kept' rest
    (first.or second, kept, kept')
  | .many p, kept, rest =>
    let outcome := (p.step left next kept none).1.or rest
    (outcome, (p.step left next kept outcome).2)
  | .few p, kept, rest =>
    let outcome := rest.or (p.step left next kept none).1
    (outcome, (p.step left next kept outcome).2)

/-- For every number of characters left, what matching from there comes to. -/
abbrev Table := Array (Option Marks)

/-- What a pattern comes to at every position of a text. -/
def table (pattern : Pattern) (text : List Char) : Table :=
  let visit (next : Option Char) (kept : pattern.Memory) (after : Table) :
      pattern.Memory × Table :=
    let (outcome, kept) := pattern.step after.size next kept (some [])
    (kept, after.push outcome)
  (text.foldr (fun c (kept, after) => visit (some c) kept after)
    (visit none pattern.noMemory #[])).2

/-! ### Searching -/

/-- The mark that notes where a match ends. -/
def endMark : Nat := 0

/-- A match: its marks, and where it starts and stops, as characters left. -/
structure Match where
  /-- Where it starts. -/
  start : Nat
  /-- Where it stops. -/
  stop : Nat
  /-- Its marks. -/
  marks : Marks
deriving DecidableEq, Repr

/-- The matches recorded in a table, from a position on, in order. A match starts where the one
before it has stopped, or later. -/
def collect (table : Table) : (left limit : Nat) → List Match
  | 0, limit => if limit = 0 then here 0 |>.toList else []
  | left + 1, limit =>
    if left + 1 ≤ limit then
      match here (left + 1) with
      | some found => found :: collect table left (min found.stop left)
      | none => collect table left limit
    else collect table left limit
where
  /-- The match at a position. -/
  here (left : Nat) : Option Match :=
    (table.getD left none).map fun marks =>
      { start := left, stop := (marks.lookup endMark).getD 0, marks }

/-- All matches of a pattern in a text, from left to right, none overlapping another. -/
def findAll (pattern : Pattern) (text : List Char) : List Match :=
  collect ((Pattern.seq pattern (.mark endMark)).table text) text.length text.length

/-- Where the preferred match at the start of a text stops, as characters left. -/
def stopAtStart (pattern : Pattern) (text : List Char) : Option Nat :=
  (pattern.run (fun left _ => some [(endMark, left)]) text.length text).bind (·.lookup endMark)

/-- The part of a text between two positions, given as characters left. -/
def between (text : List Char) (start stop : Nat) : List Char :=
  (text.drop (text.length - start)).take (start - stop)

/-- The text of a match. -/
def Match.text (found : Match) (whole : List Char) : List Char :=
  between whole found.start found.stop

/-- The text between two marks of a match; empty if one is missing. -/
def Match.group (found : Match) (whole : List Char) (first last : Nat) : List Char :=
  match found.marks.lookup first, found.marks.lookup last with
  | some start, some stop => between whole start stop
  | _, _ => []

/-! ### Building patterns -/

/-- Several patterns, one after the other. -/
def all : List Pattern → Pattern
  | [] => .empty
  | [p] => p
  | p :: rest => .seq p (all rest)

/-- A given character. -/
def char (c : Char) : Pattern :=
  .one (· == c)

/-- A given text. -/
def literal (text : String) : Pattern :=
  all (text.toList.map char)

/-- A pattern or, failing that, nothing. -/
def optional (p : Pattern) : Pattern :=
  .either p .empty

/-- One repetition and as many more as possible. -/
def oneOrMore (p : Pattern) : Pattern :=
  .seq p (.many p)

/-- A pattern between two marks. -/
def capture (first last : Nat) (p : Pattern) : Pattern :=
  all [.mark first, p, .mark last]

end Pattern

end Errand.Text
