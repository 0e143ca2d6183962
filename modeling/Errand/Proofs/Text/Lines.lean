import Mathlib
import Errand.Text.Search

/-!
# Lines that arrive in parts

The lines of a text do not depend on how it arrives: whatever is left after the last line feed of
one part is put before the next part (`splitLines_append`). Neither a line nor what is left holds a
line feed, and together they make up the text (`splitLines_join`).
-/

set_option autoImplicit false

namespace Errand.Text

theorem splitLines_lineFeed (text : List Char) :
    splitLines ('\n' :: text) = ([] :: (splitLines text).1, (splitLines text).2) := rfl

theorem splitLines_cons_of_nil {c : Char} {text : List Char} (hc : c ≠ '\n')
    (h : (splitLines text).1 = []) : splitLines (c :: text) = ([], c :: (splitLines text).2) := by
  simp [splitLines, hc, h]

theorem splitLines_cons_of_cons {c : Char} {text line : List Char} {lines : List (List Char)}
    (hc : c ≠ '\n') (h : (splitLines text).1 = line :: lines) :
    splitLines (c :: text) = ((c :: line) :: lines, (splitLines text).2) := by
  simp [splitLines, hc, h]

/-- A text without line feeds is no line yet. -/
theorem splitLines_of_notMem {text : List Char} (h : '\n' ∉ text) :
    splitLines text = ([], text) := by
  induction text with
  | nil => rfl
  | cons c text ih =>
    rw [List.mem_cons, not_or] at h
    have hrest := ih h.2
    rw [splitLines_cons_of_nil (Ne.symm h.1) (by rw [hrest]), hrest]

/-- A line is complete when its line feed has come. -/
theorem splitLines_line {line : List Char} (h : '\n' ∉ line) (text : List Char) :
    splitLines (line ++ '\n' :: text) = (line :: (splitLines text).1, (splitLines text).2) := by
  induction line with
  | nil => rfl
  | cons c line ih =>
    rw [List.mem_cons, not_or] at h
    have hrest := ih h.2
    rw [List.cons_append, splitLines_cons_of_cons (Ne.symm h.1) (by rw [hrest]), hrest]

/-- Lines are the lines of the text that they make up. -/
theorem splitLines_lines {lines : List (List Char)} (h : ∀ line ∈ lines, '\n' ∉ line) :
    splitLines (lines.flatMap (· ++ ['\n'])) = (lines, []) := by
  induction lines with
  | nil => rfl
  | cons line lines ih =>
    rw [List.forall_mem_cons] at h
    rw [List.flatMap_cons, List.append_assoc, List.singleton_append, splitLines_line h.1, ih h.2]

/-- What is left after the last line holds no line feed. -/
theorem notMem_splitLines (text : List Char) : '\n' ∉ (splitLines text).2 := by
  induction text with
  | nil => simp [splitLines]
  | cons c text ih =>
    by_cases hc : c = '\n'
    · subst hc
      exact ih
    · cases hlines : (splitLines text).1 with
      | nil =>
        rw [splitLines_cons_of_nil hc hlines]
        exact List.not_mem_cons_of_ne_of_not_mem (Ne.symm hc) ih
      | cons line lines =>
        rw [splitLines_cons_of_cons hc hlines]
        exact ih

/-- No line holds a line feed. -/
theorem notMem_of_mem_splitLines (text : List Char) :
    ∀ line ∈ (splitLines text).1, '\n' ∉ line := by
  induction text with
  | nil => simp [splitLines]
  | cons c text ih =>
    by_cases hc : c = '\n'
    · subst hc
      rw [splitLines_lineFeed]
      exact List.forall_mem_cons.mpr ⟨List.not_mem_nil, ih⟩
    · cases hlines : (splitLines text).1 with
      | nil =>
        rw [splitLines_cons_of_nil hc hlines]
        simp
      | cons line lines =>
        rw [hlines, List.forall_mem_cons] at ih
        rw [splitLines_cons_of_cons hc hlines]
        exact List.forall_mem_cons.mpr
          ⟨List.not_mem_cons_of_ne_of_not_mem (Ne.symm hc) ih.1, ih.2⟩

/-- The lines and what is left after them make up the text. -/
theorem splitLines_join (text : List Char) :
    (splitLines text).1.flatMap (· ++ ['\n']) ++ (splitLines text).2 = text := by
  induction text with
  | nil => rfl
  | cons c text ih =>
    by_cases hc : c = '\n'
    · subst hc
      rw [splitLines_lineFeed, List.flatMap_cons, List.append_assoc, ih]
      rfl
    · cases hlines : (splitLines text).1 with
      | nil =>
        rw [hlines] at ih
        rw [splitLines_cons_of_nil hc hlines]
        exact congrArg (c :: ·) ih
      | cons line lines =>
        rw [hlines] at ih
        rw [splitLines_cons_of_cons hc hlines]
        exact congrArg (c :: ·) ih

/-- The lines of two parts of a text are those of the first part, and then those of what it leaves
and the second part. -/
theorem splitLines_append (front back : List Char) :
    splitLines (front ++ back) =
      ((splitLines front).1 ++ (splitLines ((splitLines front).2 ++ back)).1,
        (splitLines ((splitLines front).2 ++ back)).2) := by
  induction front with
  | nil => rfl
  | cons c front ih =>
    rw [List.cons_append]
    by_cases hc : c = '\n'
    · subst hc
      simp only [splitLines_lineFeed, ih, List.cons_append]
    · cases hlines : (splitLines front).1 with
      | nil =>
        rw [splitLines_cons_of_nil hc hlines]
        rw [hlines, List.nil_append] at ih
        simp only [splitLines, ih, List.nil_append, List.cons_append]
      | cons line lines =>
        rw [splitLines_cons_of_cons hc hlines, splitLines_cons_of_cons hc (by rw [ih, hlines]; rfl),
          ih]
        rfl

end Errand.Text
