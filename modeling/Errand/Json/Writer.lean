import Errand.Json.Basic

/-!
# Writing JSON

Two layouts of one value. The compact one has no blanks at all. The pretty one puts every item and
field on a line of its own, two spaces further in than its container, with one space after the
colon; an empty array or object stays on its line in both. Strings escape quotes, backslashes and
the characters below the space, and leave everything else as it is.
-/

set_option autoImplicit false

namespace Errand.Json

/-- A hexadecimal digit, in lower case. -/
def hexDigit (n : Nat) : Char :=
  Nat.digitChar n

/-- One character of a written string. -/
def escapeChar (c : Char) : List Char :=
  match c with
  | '"' => ['\\', '"']
  | '\\' => ['\\', '\\']
  | '\x08' => ['\\', 'b']
  | '\x0c' => ['\\', 'f']
  | '\n' => ['\\', 'n']
  | '\r' => ['\\', 'r']
  | '\t' => ['\\', 't']
  | c =>
    if c.toNat < 0x20 then
      ['\\', 'u', '0', '0', hexDigit (c.toNat / 16), hexDigit (c.toNat % 16)]
    else [c]

/-- A written string, with its quotes. -/
def writeString (s : String) : List Char :=
  '"' :: s.toList.flatMap escapeChar ++ ['"']

/-- A written number. -/
def writeNumber : Number → List Char
  | .int n => (toString n).toList
  | .real x => (Errand.Number.Layout.json.render .double x).toList

mutual

/-- The compact text of a value. -/
def write : Json → List Char
  | .null => ['n', 'u', 'l', 'l']
  | .bool true => ['t', 'r', 'u', 'e']
  | .bool false => ['f', 'a', 'l', 's', 'e']
  | .num n => writeNumber n
  | .str s => writeString s
  | .arr items => '[' :: writeItems items ++ [']']
  | .obj fields => '{' :: writeFields fields ++ ['}']

/-- Items with commas between them. -/
def writeItems : List Json → List Char
  | [] => []
  | [item] => write item
  | item :: next :: rest => write item ++ ',' :: writeItems (next :: rest)

/-- Fields with commas between them. -/
def writeFields : List (String × Json) → List Char
  | [] => []
  | [(key, value)] => writeString key ++ ':' :: write value
  | (key, value) :: next :: rest =>
    writeString key ++ ':' :: write value ++ ',' :: writeFields (next :: rest)

end

/-- The start of a line, a number of steps further in. -/
def lineStart (level : Nat) : List Char :=
  '\n' :: List.replicate (2 * level) ' '

mutual

/-- The pretty text of a value that stands at a level of nesting. -/
def writePretty (level : Nat) : Json → List Char
  | .null => ['n', 'u', 'l', 'l']
  | .bool true => ['t', 'r', 'u', 'e']
  | .bool false => ['f', 'a', 'l', 's', 'e']
  | .num n => writeNumber n
  | .str s => writeString s
  | .arr [] => ['[', ']']
  | .arr (item :: rest) =>
    '[' :: writePrettyItems (level + 1) (item :: rest) ++ lineStart level ++ [']']
  | .obj [] => ['{', '}']
  | .obj (field :: rest) =>
    '{' :: writePrettyFields (level + 1) (field :: rest) ++ lineStart level ++ ['}']

/-- Items on lines of their own. -/
def writePrettyItems (level : Nat) : List Json → List Char
  | [] => []
  | [item] => lineStart level ++ writePretty level item
  | item :: next :: rest =>
    lineStart level ++ writePretty level item ++ ',' :: writePrettyItems level (next :: rest)

/-- Fields on lines of their own. -/
def writePrettyFields (level : Nat) : List (String × Json) → List Char
  | [] => []
  | [(key, value)] => lineStart level ++ writeString key ++ ':' :: ' ' :: writePretty level value
  | (key, value) :: next :: rest =>
    lineStart level ++ writeString key ++ ':' :: ' ' :: writePretty level value ++
      ',' :: writePrettyFields level (next :: rest)

end

/-- The compact text. -/
def compact (value : Json) : String :=
  String.ofList value.write

/-- The pretty text. -/
def pretty (value : Json) : String :=
  String.ofList (writePretty 0 value)

end Errand.Json
