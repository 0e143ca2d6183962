import Errand.Text.Unseen

/-!
# Quoted text in messages

A message that shows a text puts it between double quotes and spells out what a reader could not
see: the escapes of tab, line feed, carriage return and the null character, a backslash before
quotes and backslashes, and the code point, in hexadecimal and in braces, of any other unseen
character.
-/

set_option autoImplicit false

namespace Errand.Text

/-- The digits of a number in hexadecimal. -/
def hexDigits (n : Nat) : List Char :=
  Nat.toDigits 16 n

/-- One character of a quoted text. -/
def quoteChar (c : Char) : List Char :=
  match c with
  | '\x00' => ['\\', '0']
  | '\t' => ['\\', 't']
  | '\n' => ['\\', 'n']
  | '\r' => ['\\', 'r']
  | '"' => ['\\', '"']
  | '\\' => ['\\', '\\']
  | c =>
    if isUnseen c then ['\\', 'u', '\x7b'] ++ hexDigits c.toNat ++ ['\x7d']
    else [c]

/-- A text between double quotes. -/
def quoted (text : String) : String :=
  String.ofList ('"' :: text.toList.flatMap quoteChar ++ ['"'])

end Errand.Text
