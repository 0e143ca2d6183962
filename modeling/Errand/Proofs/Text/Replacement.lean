import Errand.Proofs.Text.Classes
import Errand.Text.Search

/-!
# What replacement leaves in place

A text in which a part does not occur is left as it is. A part at the start of a text becomes the
value (`replace_append`), and what stands in front of a text stays if no occurrence begins in it
(`replace_append_of_not_isPrefix`), as when it lacks the character that the part begins with. A
character that the part does not have separates a text: no occurrence goes across it, so replacement
works on the two sides on their own (`replace_append_cons`).
-/

set_option autoImplicit false

namespace Errand.Text

variable {part value text front back : List Char} {c : Char}

/-- A part does not occur where one of its characters is missing. -/
theorem contains_eq_false_of_notMem (hpart : c ∈ part) (htext : c ∉ text) :
    contains part text = false := by
  induction text with
  | nil => cases part <;> simp_all [contains]
  | cons d text ih =>
    have hprefix : ¬ part <+: d :: text := fun hhere ↦ htext (hhere.subset hpart)
    have hrest := ih fun hmem ↦ htext (List.mem_cons_of_mem d hmem)
    simp [contains, hrest, Bool.eq_false_iff, hprefix]

theorem replaceFrom_of_contains (h : contains part text = false) :
    replaceFrom part value 0 text = text := by
  induction text with
  | nil => rfl
  | cons d text ih =>
    simp only [contains, Bool.or_eq_false_iff] at h
    simp [replaceFrom, h.1, ih h.2]

/-- A text without the part is left as it is. -/
theorem replace_of_contains (h : contains part text = false) : replace part value text = text := by
  unfold replace
  split
  · rfl
  · exact replaceFrom_of_contains h

/-- What is left of an occurrence is passed over. -/
theorem replaceFrom_length (front back : List Char) :
    replaceFrom part value front.length (front ++ back) = replaceFrom part value 0 back := by
  induction front with
  | nil => rfl
  | cons d front ih => exact ih

/-- A part that stands at the start of a text becomes the value. -/
theorem replace_append (hpart : part ≠ []) (text : List Char) :
    replace part value (part ++ text) = value ++ replace part value text := by
  obtain ⟨d, others, rfl⟩ := List.exists_cons_of_ne_nil hpart
  have hprefix : (d :: others).isPrefixOf (d :: (others ++ text)) :=
    List.isPrefixOf_iff_prefix.mpr (List.prefix_append (d :: others) text)
  have hrest : replaceFrom (d :: others) value others.length (others ++ text) =
      replaceFrom (d :: others) value 0 text := replaceFrom_length others text
  simp [replace, replaceFrom, hprefix, hrest]

/-- The part itself becomes the value. -/
theorem replace_self (hpart : part ≠ []) : replace part value part = value := by
  have hself : replace part value (part ++ []) = value ++ replace part value [] :=
    replace_append hpart []
  simpa [replace, replaceFrom] using hself

theorem replace_cons_of_not_isPrefix (h : ¬ part <+: c :: text) :
    replace part value (c :: text) = c :: replace part value text := by
  have hpart : part.isEmpty = false := by
    cases part with
    | nil => exact absurd List.nil_prefix h
    | cons d others => rfl
  have hhere : part.isPrefixOf (c :: text) = false := by
    simpa [Bool.eq_false_iff, List.isPrefixOf_iff_prefix] using h
  simp [replace, hpart, replaceFrom, hhere]

/-- What is in front of a text stays if the part begins nowhere in it. -/
theorem replace_append_of_not_isPrefix
    (h : ∀ tail, tail <:+ front → tail ≠ [] → ¬ part <+: tail ++ text) :
    replace part value (front ++ text) = front ++ replace part value text := by
  induction front with
  | nil => rfl
  | cons d front ih =>
    have hhere : ¬ part <+: d :: (front ++ text) :=
      h (d :: front) (List.suffix_refl _) (List.cons_ne_nil d front)
    have hrest := ih fun tail htail ↦ h tail (htail.trans (List.suffix_cons d front))
    rw [List.cons_append, replace_cons_of_not_isPrefix hhere, hrest, List.cons_append]

/-- What is in front of a text stays if it lacks the character that the part begins with. -/
theorem replace_append_of_notMem (hpart : part.head? = some c) (hc : c ∉ front) :
    replace part value (front ++ text) = front ++ replace part value text := by
  obtain ⟨others, rfl⟩ := List.head?_eq_some_iff.mp hpart
  refine replace_append_of_not_isPrefix fun tail htail hnonempty hprefix ↦ ?_
  obtain ⟨d, tail, rfl⟩ := List.exists_cons_of_ne_nil hnonempty
  obtain ⟨rfl, -⟩ := List.cons_prefix_cons.mp hprefix
  exact hc (htail.subset List.mem_cons_self)

/-- A part without some character does not begin in front of the character and end after it. -/
theorem isPrefixOf_append_cons (hc : c ∉ part) :
    part.isPrefixOf (front ++ c :: back) = part.isPrefixOf front := by
  rw [Bool.eq_iff_iff, List.isPrefixOf_iff_prefix, List.isPrefixOf_iff_prefix]
  refine ⟨fun h ↦ ?_, fun h ↦ h.trans (List.prefix_append front _)⟩
  obtain ⟨after, happend⟩ := h
  obtain ⟨rest, rfl, -⟩ := exists_of_notMem_left hc happend.symm
  exact List.prefix_append part rest

/-- The induction is on the front; of an occurrence that begins there, no more is left to pass over
than the rest of the front. -/
theorem replaceFrom_append_cons (hpart : part ≠ []) (hc : c ∉ part) {skip : Nat}
    (hskip : skip ≤ front.length) :
    replaceFrom part value skip (front ++ c :: back) =
      replaceFrom part value skip front ++ c :: replaceFrom part value 0 back := by
  induction front generalizing skip with
  | nil =>
    obtain rfl : skip = 0 := by simpa using hskip
    have hhere : part.isPrefixOf (c :: back) = false := by
      rw [← List.nil_append (c :: back), isPrefixOf_append_cons hc]
      cases part <;> simp_all
    simp [replaceFrom, hhere]
  | cons d front ih =>
    cases skip with
    | succ skip => exact ih (by simpa using hskip)
    | zero =>
      have hhere : part.isPrefixOf (d :: (front ++ c :: back)) = part.isPrefixOf (d :: front) :=
        @isPrefixOf_append_cons part (d :: front) back c hc
      simp only [List.cons_append, replaceFrom, hhere]
      split
      · next hprefix =>
        have hlength := (List.isPrefixOf_iff_prefix.mp hprefix).length_le
        rw [ih (by simp at hlength; omega), List.append_assoc]
      · rw [ih (Nat.zero_le _), List.cons_append]

/-- Replacement works on the two sides of a character that the part does not have. -/
theorem replace_append_cons (hc : c ∉ part) :
    replace part value (front ++ c :: back) =
      replace part value front ++ c :: replace part value back := by
  unfold replace
  split
  · rfl
  · next hpart => exact replaceFrom_append_cons (by simpa using hpart) hc (Nat.zero_le _)

end Errand.Text
