/-!
# Blanks

A blank is a character of the property `White_Space`: the five layout controls of ASCII, the space,
and the separators of other scripts. A text is trimmed by dropping blanks, or another class of
characters, from its ends.
-/

set_option autoImplicit false

namespace Errand.Text

/-- A character of the property `White_Space`. -/
def isBlank (c : Char) : Bool :=
  let n := c.toNat
  (9 ≤ n && n ≤ 13) || n == 32 || n == 0x85 || n == 0xA0 || n == 0x1680 ||
    (0x2000 ≤ n && n ≤ 0x200A) || n == 0x2028 || n == 0x2029 || n == 0x202F || n == 0x205F ||
    n == 0x3000

/-- The text without the characters of a class at its end. -/
def dropEndWhile (drop : Char → Bool) (text : List Char) : List Char :=
  (text.reverse.dropWhile drop).reverse

/-- The text without the characters of a class at both ends. -/
def stripWhile (drop : Char → Bool) (text : List Char) : List Char :=
  dropEndWhile drop (text.dropWhile drop)

/-- The text without blanks at its start. -/
def trimStart (text : List Char) : List Char :=
  text.dropWhile isBlank

/-- The text without blanks at its end. -/
def trimEnd (text : List Char) : List Char :=
  dropEndWhile isBlank text

/-- The text without blanks at both ends. -/
def trim (text : List Char) : List Char :=
  stripWhile isBlank text

/-- Whether nothing but blanks stands in a text. -/
def isAllBlank (text : String) : Bool :=
  text.toList.all isBlank

end Errand.Text
