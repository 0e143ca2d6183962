import Mathlib
import Errand.Text.Blank
import Errand.Text.Word

/-!
# Blanks, digits and word characters

There are twenty-five blanks, and none of them is a digit or a word character (`isDigit_of_blank`,
`isWord_of_blank`). A text that neither begins nor ends with a blank is not changed by trimming
(`trim_eq_self`), and trimming only takes from the ends of a text (`stripWhile_isInfix`).
-/

set_option autoImplicit false

namespace Errand.Text

/-- The blanks. -/
def blankChars : List Char :=
  ['\t', '\n', '\x0b', '\x0c', '\r', ' ', '\u0085', '\u00A0', '\u1680', '\u2000', '\u2001',
    '\u2002', '\u2003', '\u2004', '\u2005', '\u2006', '\u2007', '\u2008', '\u2009', '\u200A',
    '\u2028', '\u2029', '\u202F', '\u205F', '\u3000']

theorem mem_blankChars {c : Char} (h : isBlank c) : c ∈ blankChars := by
  have hcode : c.toNat ∈ blankChars.map Char.toNat := by
    simp only [isBlank, Bool.or_eq_true, Bool.and_eq_true, decide_eq_true_eq, beq_iff_eq] at h
    simp only [blankChars, List.map_cons, List.map_nil, List.mem_cons, Char.reduceToNat,
      List.not_mem_nil, or_false]
    omega
  obtain ⟨d, hd, heq⟩ := List.mem_map.mp hcode
  obtain rfl : d = c := Char.toNat_inj.mp heq
  exact hd

/-- No blank is a digit. -/
theorem isDigit_of_blank {c : Char} (h : isBlank c) : isDigit c = false := by
  have hall : blankChars.all (!isDigit ·) = true := by decide +kernel
  simpa using List.all_eq_true.mp hall c (mem_blankChars h)

/-- No blank is a word character. -/
theorem isWord_of_blank {c : Char} (h : isBlank c) : isWord c = false := by
  have hall : blankChars.all (!isWord ·) = true := by decide +kernel
  simpa using List.all_eq_true.mp hall c (mem_blankChars h)

theorem isBlank_of_digit {c : Char} (h : isDigit c) : isBlank c = false :=
  Bool.eq_false_iff.mpr fun hblank ↦ by simp [isDigit_of_blank hblank] at h

theorem isBlank_of_word {c : Char} (h : isWord c) : isBlank c = false :=
  Bool.eq_false_iff.mpr fun hblank ↦ by simp [isWord_of_blank hblank] at h

/-! ### Where a class ends -/

section Cut

variable {accepts : Char → Bool} {front front' back back' : List Char}

theorem takeWhile_append_of_head (hfront : ∀ c ∈ front, accepts c)
    (hback : ∀ c ∈ back.head?, accepts c = false) : (front ++ back).takeWhile accepts = front := by
  rw [List.takeWhile_append_of_pos hfront]
  cases back with
  | nil => simp
  | cons c back => simp [hback c rfl]

/-- The characters of a class at the start of a text end where the first other one stands. -/
theorem append_inj_of_class (hfront : ∀ c ∈ front, accepts c)
    (hback : ∀ c ∈ back.head?, accepts c = false) (hfront' : ∀ c ∈ front', accepts c)
    (hback' : ∀ c ∈ back'.head?, accepts c = false) (h : front ++ back = front' ++ back') :
    front = front' ∧ back = back' := by
  obtain rfl : front = front' := by
    rw [← takeWhile_append_of_head hfront hback, h, takeWhile_append_of_head hfront' hback']
  exact ⟨rfl, List.append_cancel_left h⟩

/-- A character stands first in one place only. -/
theorem append_cons_inj_of_first {c : Char} (hfront : c ∉ front) (hfront' : c ∉ front')
    (h : front ++ c :: back = front' ++ c :: back') : front = front' ∧ back = back' := by
  have hother : ∀ {text : List Char}, c ∉ text → ∀ d ∈ text, (d != c) = true :=
    fun htext d hd ↦ bne_iff_ne.mpr fun heq ↦ htext (heq ▸ hd)
  obtain ⟨rfl, hback⟩ := append_inj_of_class (hother hfront) (by simp) (hother hfront') (by simp) h
  exact ⟨rfl, (List.cons.inj hback).2⟩

end Cut

section Split

variable {c : Char} {front back front' back' : List Char}

/-- A character that the start of a text lacks stands behind that start. -/
theorem exists_of_notMem_left (hc : c ∉ front') (h : front ++ c :: back = front' ++ back') :
    ∃ rest, front = front' ++ rest ∧ back' = rest ++ c :: back := by
  rcases List.append_eq_append_iff.mp h with ⟨rest, hfront, hback⟩ | ⟨rest, hfront, hback⟩
  · rcases rest with _ | ⟨d, rest⟩
    · exact ⟨[], by simpa using hfront.symm, by simpa using hback.symm⟩
    · obtain ⟨rfl, -⟩ := List.cons.inj hback
      exact absurd (by simp [hfront]) hc
  · exact ⟨rest, hfront, hback⟩

theorem cons_ne_append (hc : c ∉ front) (hne : front ≠ []) : c :: back ≠ front ++ back' := by
  obtain ⟨d, tail, rfl⟩ := List.exists_cons_of_ne_nil hne
  intro h
  obtain ⟨rfl, -⟩ := List.cons.inj h
  exact hc List.mem_cons_self

/-- A character that the end of a text lacks stands before that end. -/
theorem exists_of_notMem_right (hc : c ∉ back') (h : front ++ c :: back = front' ++ back') :
    ∃ rest, front' = front ++ c :: rest ∧ back = rest ++ back' := by
  rcases List.append_eq_append_iff.mp h with ⟨rest, hfront, hback⟩ | ⟨rest, -, hback⟩
  · rcases rest with _ | ⟨d, rest⟩
    · exact absurd (by rw [← List.nil_append back', ← hback]; simp) hc
    · obtain ⟨rfl, htail⟩ := List.cons.inj hback
      exact ⟨rest, hfront, htail⟩
  · exact absurd (by simp [hback]) hc

/-- A start that lacks a character ends within one that has it. -/
theorem exists_of_mem_right (hc : c ∉ front) (hc' : c ∈ front')
    (h : front ++ back = front' ++ back') :
    ∃ rest, front' = front ++ rest ∧ back = rest ++ back' := by
  rcases List.append_eq_append_iff.mp h with hsplit | ⟨rest, hfront, -⟩
  · exact hsplit
  · exact absurd (by rw [hfront]; exact List.mem_append_left _ hc') hc

end Split

/-! ### Trimming -/

section Strip

variable {drop : Char → Bool} {text : List Char}

theorem dropWhile_eq_self (h : ∀ c ∈ text.head?, drop c = false) : text.dropWhile drop = text := by
  cases text with
  | nil => rfl
  | cons c text => simp [h c rfl]

theorem dropEndWhile_eq_self (h : ∀ c ∈ text.getLast?, drop c = false) :
    dropEndWhile drop text = text := by
  rw [dropEndWhile, dropWhile_eq_self (by simpa using h), List.reverse_reverse]

/-- Nothing is dropped from a text whose ends are outside the class. -/
theorem stripWhile_eq_self (hhead : ∀ c ∈ text.head?, drop c = false)
    (hlast : ∀ c ∈ text.getLast?, drop c = false) : stripWhile drop text = text := by
  rw [stripWhile, dropWhile_eq_self hhead, dropEndWhile_eq_self hlast]

theorem dropEndWhile_isPrefix (drop : Char → Bool) (text : List Char) :
    dropEndWhile drop text <+: text := by
  have hsuffix := List.dropWhile_suffix (l := text.reverse) drop
  rw [← List.reverse_prefix, List.reverse_reverse] at hsuffix
  exact hsuffix

/-- What is left of a stripped text stands in it. -/
theorem stripWhile_isInfix (drop : Char → Bool) (text : List Char) :
    stripWhile drop text <:+: text :=
  (dropEndWhile_isPrefix drop _).isInfix.trans (List.dropWhile_suffix drop).isInfix

theorem head?_dropWhile (drop : Char → Bool) (text : List Char) :
    ∀ c ∈ (text.dropWhile drop).head?, drop c = false := by
  intro c hc
  have hnot := List.head?_dropWhile_not drop text
  rw [Option.mem_def.mp hc] at hnot
  simpa using hnot

/-- A stripped text begins outside the class. -/
theorem head?_stripWhile (drop : Char → Bool) (text : List Char) :
    ∀ c ∈ (stripWhile drop text).head?, drop c = false := by
  intro c hc
  obtain ⟨tail, htail⟩ := List.head?_eq_some_iff.mp hc
  obtain ⟨rest, hrest⟩ := dropEndWhile_isPrefix drop (text.dropWhile drop)
  refine head?_dropWhile drop text c ?_
  rw [← hrest]
  change c ∈ (stripWhile drop text ++ rest).head?
  rw [htail]
  rfl

/-- A stripped text ends outside the class. -/
theorem getLast?_stripWhile (drop : Char → Bool) (text : List Char) :
    ∀ c ∈ (stripWhile drop text).getLast?, drop c = false := by
  intro c hc
  rw [stripWhile, dropEndWhile, List.getLast?_reverse] at hc
  exact head?_dropWhile drop _ c hc

/-- What is outside the class is not dropped. -/
theorem mem_dropWhile {c : Char} (hc : c ∈ text) (hdrop : drop c = false) :
    c ∈ text.dropWhile drop := by
  rw [← List.takeWhile_append_dropWhile (p := drop) (l := text), List.mem_append] at hc
  refine hc.resolve_left fun htake ↦ ?_
  rw [List.mem_takeWhile_imp htake] at hdrop
  cases hdrop

theorem mem_stripWhile {c : Char} (hc : c ∈ text) (hdrop : drop c = false) :
    c ∈ stripWhile drop text := by
  rw [stripWhile, dropEndWhile, List.mem_reverse]
  exact mem_dropWhile (List.mem_reverse.mpr (mem_dropWhile hc hdrop)) hdrop

/-- Characters of the class in front of a text are dropped. -/
theorem stripWhile_append {front : List Char} (hfront : ∀ c ∈ front, drop c) :
    stripWhile drop (front ++ text) = stripWhile drop text := by
  rw [stripWhile, List.dropWhile_append_of_pos hfront, stripWhile]

/-- Characters of the class behind a text are dropped. -/
theorem dropEndWhile_append {back : List Char} (hback : ∀ c ∈ back, drop c) :
    dropEndWhile drop (text ++ back) = dropEndWhile drop text := by
  rw [dropEndWhile, List.reverse_append, List.dropWhile_append_of_pos (by simpa using hback),
    dropEndWhile]

theorem dropEndWhile_eq_nil (hall : ∀ c ∈ text, drop c) : dropEndWhile drop text = [] := by
  rw [← List.nil_append text, dropEndWhile_append hall]
  rfl

/-- If not all of a text belongs to the class, nothing is dropped from what stands before it. -/
theorem dropEndWhile_append_of_mem {c : Char} (hc : c ∈ text) (hdrop : drop c = false)
    (front : List Char) : dropEndWhile drop (front ++ text) = front ++ dropEndWhile drop text := by
  have hleft : ¬ (text.reverse.dropWhile drop).isEmpty := by
    rw [List.isEmpty_iff]
    exact List.ne_nil_of_mem (mem_dropWhile (List.mem_reverse.mpr hc) hdrop)
  rw [dropEndWhile, List.reverse_append, List.dropWhile_append, if_neg hleft, List.reverse_append,
    List.reverse_reverse, dropEndWhile]

/-- Nothing is dropped from a text that ends outside the class, whatever stands behind it. -/
theorem dropEndWhile_append_of_getLast? {front : List Char}
    (hlast : ∀ c ∈ front.getLast?, drop c = false) (text : List Char) :
    dropEndWhile drop (front ++ text) = front ++ dropEndWhile drop text := by
  by_cases hall : ∀ c ∈ text, drop c
  · rw [dropEndWhile_append hall, dropEndWhile_eq_self hlast, dropEndWhile_eq_nil hall,
      List.append_nil]
  · obtain ⟨c, hc, hdrop⟩ : ∃ c ∈ text, drop c = false := by simpa using hall
    exact dropEndWhile_append_of_mem hc hdrop front

/-- The ends of a text can be stripped in either order. -/
theorem dropWhile_dropEndWhile (drop : Char → Bool) (text : List Char) :
    (dropEndWhile drop text).dropWhile drop = stripWhile drop text := by
  by_cases hall : ∀ c ∈ text, drop c
  · rw [dropEndWhile_eq_nil hall, stripWhile, List.dropWhile_eq_nil_iff.mpr hall]
    rfl
  · obtain ⟨c, hc, hdrop⟩ : ∃ c ∈ text, drop c = false := by simpa using hall
    -- What is dropped in front is dropped first or last; the end is that of the rest either way.
    have hfront : ∀ d ∈ text.takeWhile drop, drop d := fun d hd ↦ List.mem_takeWhile_imp hd
    have hsplit := dropEndWhile_append_of_mem (mem_dropWhile hc hdrop) hdrop (text.takeWhile drop)
    rw [List.takeWhile_append_dropWhile] at hsplit
    rw [hsplit, List.dropWhile_append_of_pos hfront]
    exact dropWhile_eq_self (head?_stripWhile drop text)

end Strip

theorem trim_eq_self {text : List Char} (hhead : ∀ c ∈ text.head?, isBlank c = false)
    (hlast : ∀ c ∈ text.getLast?, isBlank c = false) : trim text = text :=
  stripWhile_eq_self hhead hlast

/-- A text without blanks is not changed by trimming. -/
theorem trim_eq_self_of_forall {text : List Char} (h : ∀ c ∈ text, isBlank c = false) :
    trim text = text :=
  trim_eq_self (fun c hc ↦ h c (List.mem_of_mem_head? hc))
    (fun c hc ↦ h c (List.mem_of_mem_getLast? hc))

end Errand.Text
