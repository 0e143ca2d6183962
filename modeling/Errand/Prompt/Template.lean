import Errand.Text.Word

/-!
# Filling templates

A template is a text with places of the form `{name}`, where the name is made of word characters.
Filling puts a value into each place in one pass from left to right, so that braces in a value mean
nothing. A place whose name has no value stays as it is.
-/

set_option autoImplicit false

namespace Errand.Prompt

open Text (isWord)

/-- The name of the place that a text begins with, the opening brace apart, and what follows it. -/
def placeName? (text : List Char) : Option (List Char × List Char) :=
  let name := text.takeWhile isWord
  match text.dropWhile isWord with
  | '\x7d' :: rest => if name.isEmpty then none else some (name, rest)
  | _ => none

theorem length_dropWhile_le {α : Type} (p : α → Bool) (l : List α) :
    (l.dropWhile p).length ≤ l.length := by
  induction l with
  | nil => simp
  | cons a l ih =>
    simp only [List.dropWhile]
    split
    · exact Nat.le_succ_of_le ih
    · exact Nat.le_refl _

/-- What follows a place is shorter than the text that begins with it. -/
theorem length_lt_of_placeName? {text name rest : List Char}
    (h : placeName? text = some (name, rest)) : rest.length < text.length := by
  have hle := length_dropWhile_le isWord text
  simp only [placeName?] at h
  split at h
  · next hdrop =>
    split at h
    · cases h
    · cases h
      rw [hdrop, List.length_cons] at hle
      omega
  · cases h

/-- A template with values put into its places. -/
def fillChars (values : List (String × String)) : List Char → List Char
  | [] => []
  | c :: text =>
    if c = '\x7b' then
      match _h : placeName? text with
      | some (name, rest) =>
        (match values.lookup (String.ofList name) with
          | some value => value.toList
          | none => '\x7b' :: name ++ ['\x7d']) ++ fillChars values rest
      | none => c :: fillChars values text
    else c :: fillChars values text
termination_by text => text.length
decreasing_by
  · have := length_lt_of_placeName? _h
    simp only [List.length_cons]
    omega
  · simp
  · simp

/-- A template with values put into its places. -/
def fill (template : String) (values : List (String × String)) : String :=
  String.ofList (fillChars values template.toList)

end Errand.Prompt
