/-!
# Finding and replacing

Search for a text inside another, by position. Replacement goes from left to right, takes the
leftmost occurrence first, and never looks at inserted text again.
-/

set_option autoImplicit false

namespace Errand.Text

/-- What follows `front` in a text that begins with it. -/
def stripFront : List Char → List Char → Option (List Char)
  | [], text => some text
  | _ :: _, [] => none
  | c :: front, d :: text => if c = d then stripFront front text else none

/-- Whether `part` occurs in a text. -/
def contains (part : List Char) : List Char → Bool
  | [] => part.isEmpty
  | c :: text => part.isPrefixOf (c :: text) || contains part text

/-- The text with every occurrence of `part` replaced; `skip` characters of an occurrence that has
been replaced are still to be passed over. -/
def replaceFrom (part value : List Char) : (skip : Nat) → List Char → List Char
  | _, [] => []
  | skip + 1, _ :: text => replaceFrom part value skip text
  | 0, c :: text =>
    if part.isPrefixOf (c :: text) then value ++ replaceFrom part value (part.length - 1) text
    else c :: replaceFrom part value 0 text

/-- The text with every occurrence of `part` replaced by `value`. The empty part is found nowhere.
-/
def replace (part value text : List Char) : List Char :=
  if part.isEmpty then text else replaceFrom part value 0 text

/-- The lines of a text, without their line feeds, and what follows the last line feed. -/
def splitLines : List Char → List (List Char) × List Char
  | [] => ([], [])
  | c :: text =>
    match splitLines text with
    | (lines, rest) =>
      if c = '\n' then ([] :: lines, rest)
      else
        match lines with
        | [] => ([], c :: rest)
        | line :: lines => ((c :: line) :: lines, rest)

/-- The parts of a text between separators. -/
def parts (separator : Char) (text : List Char) : List (List Char) :=
  text.foldr
    (fun c parts =>
      if c = separator then [] :: parts
      else
        match parts with
        | part :: rest => (c :: part) :: rest
        | [] => [[c]])
    [[]]

end Errand.Text
