import Errand.Text.Lower
import Errand.Text.Search
import Mathlib.Data.List.Basic

/-!
# Lower case of a part

Only `Σ` is put into lower case in view of its surroundings. So a part of a text has the same lower
case there as on its own if and only if each of its `Σ` ends a word in both or in neither
(`ReadsAlike`, `lowerWithin_eq_lower_iff`); in every case it has as many characters.

A search that puts both sides into lower case finds a part where it stands if it reads alike there
(`ReadsAlike.contains_lower`). It finds the part in every text that has it if and only if the part
reads alike between any two texts (`contains_lower_iff`): otherwise a letter before or after it is
enough to hide it.
-/

set_option autoImplicit false

namespace Errand.Text

variable {before before' part after after' text : List Char} {c : Char}

/-! ### Characters between others -/

/-- Whether a `Σ` between two texts ends a word; the text before it is given from its end on. -/
def endsWord (before after : List Char) : Bool :=
  touchesCased before && !touchesCased after

/-- The lower case of a character between two texts, of which the first is given from its end on. -/
def lowerOne (before : List Char) (c : Char) (after : List Char) : List Char :=
  if c = 'Σ' then if endsWord before after then ['ς'] else ['σ']
  else if c = 'İ' then ['i', '\u0307']
  else [lowerChar c]

/-- The lower case of a text between two others, of which the first is given from its end on. -/
def lowerWithin : (before text after : List Char) → List Char
  | _, [], _ => []
  | before, c :: text, after =>
    lowerOne before c (text ++ after) ++ lowerWithin (c :: before) text after

theorem length_lowerOne (before before' after after' : List Char) (c : Char) :
    (lowerOne before c after).length = (lowerOne before' c after').length := by
  unfold lowerOne
  split_ifs <;> rfl

theorem length_lowerWithin (before before' text after after' : List Char) :
    (lowerWithin before text after).length = (lowerWithin before' text after').length := by
  induction text generalizing before before' with
  | nil => rfl
  | cons c text ih =>
    rw [lowerWithin, lowerWithin, List.length_append, List.length_append, ih (c :: before),
      length_lowerOne before before']

/-- A text is put into lower case part by part. -/
theorem lowerAfter_append (before text after : List Char) :
    lowerAfter before (text ++ after) =
      lowerWithin before text after ++ lowerAfter (text.reverse ++ before) after := by
  induction text generalizing before with
  | nil => rfl
  | cons c text ih =>
    have hone : lowerAfter before (c :: (text ++ after)) =
        lowerOne before c (text ++ after) ++ lowerAfter (c :: before) (text ++ after) := rfl
    rw [List.cons_append, hone, ih, lowerWithin]
    simp

theorem lower_eq_lowerWithin (text : List Char) : lower text = lowerWithin [] text [] := by
  have happend := lowerAfter_append [] text []
  rw [List.append_nil] at happend
  rw [lower, happend]
  exact List.append_nil _

theorem lower_append (before part after : List Char) :
    lower (before ++ part ++ after) =
      lowerWithin [] before (part ++ after) ++ lowerWithin before.reverse part after ++
        lowerAfter (part.reverse ++ before.reverse) after := by
  rw [lower, List.append_assoc, lowerAfter_append, lowerAfter_append, List.append_assoc,
    List.append_nil]

/-! ### Parts that are read alike -/

theorem lowerOne_eq_iff :
    lowerOne before c after = lowerOne before' c after' ↔
      (c = 'Σ' → endsWord before after = endsWord before' after') := by
  unfold lowerOne
  by_cases hc : c = 'Σ'
  · cases endsWord before after <;> cases endsWord before' after' <;> simp [hc]
  · simp [hc]

/-- A text has the same lower case in two surroundings exactly if each of its `Σ` ends a word in
both or in neither. -/
theorem lowerWithin_eq_iff :
    lowerWithin before part after = lowerWithin before' part after' ↔
      ∀ front back, part = front ++ 'Σ' :: back →
        endsWord (front.reverse ++ before) (back ++ after) =
          endsWord (front.reverse ++ before') (back ++ after') := by
  induction part generalizing before before' with
  | nil => simp [lowerWithin]
  | cons c part ih =>
    have hparts : lowerWithin before (c :: part) after = lowerWithin before' (c :: part) after' ↔
        lowerOne before c (part ++ after) = lowerOne before' c (part ++ after') ∧
          lowerWithin (c :: before) part after = lowerWithin (c :: before') part after' :=
      ⟨fun h ↦ List.append_inj h (length_lowerOne _ _ _ _ _), fun h ↦ by
        rw [lowerWithin, lowerWithin, h.1, h.2]⟩
    rw [hparts, lowerOne_eq_iff, ih]
    constructor
    · rintro ⟨hfirst, hrest⟩ front back hsplit
      rcases front with _ | ⟨d, front⟩
      · obtain ⟨rfl, rfl⟩ := List.cons.inj hsplit
        exact hfirst rfl
      · obtain ⟨rfl, rfl⟩ := List.cons.inj hsplit
        simpa using hrest front back rfl
    · intro h
      refine ⟨fun hc ↦ ?_, fun front back hsplit ↦ ?_⟩
      · simpa using h [] part (by rw [hc]; rfl)
      · simpa using h (c :: front) back (by rw [hsplit]; rfl)

/-- Whether each `Σ` of a part ends a word between two texts exactly if it does in the part on its
own. -/
def ReadsAlike (before part after : List Char) : Prop :=
  ∀ front back, part = front ++ 'Σ' :: back →
    endsWord (front.reverse ++ before.reverse) (back ++ after) = endsWord front.reverse back

/-- A part has the lower case that it has on its own exactly if it reads alike. -/
theorem lowerWithin_eq_lower_iff :
    lowerWithin before.reverse part after = lower part ↔ ReadsAlike before part after := by
  rw [lower_eq_lowerWithin, lowerWithin_eq_iff]
  simp only [List.append_nil, ReadsAlike]

instance (before part after : List Char) : Decidable (ReadsAlike before part after) :=
  decidable_of_iff _ lowerWithin_eq_lower_iff

theorem readsAlike_of_notMem (h : 'Σ' ∉ part) : ReadsAlike before part after := by
  rintro front back rfl
  simp at h

/-! ### What is found -/

theorem contains_iff_isInfix (part text : List Char) : contains part text ↔ part <:+: text := by
  induction text with
  | nil => cases part <;> simp [contains]
  | cons c text ih => simp [contains, ih, List.infix_cons_iff]

/-- A part is found where it reads alike. -/
theorem ReadsAlike.contains_lower (h : ReadsAlike before part after) :
    contains (lower part) (lower (before ++ part ++ after)) := by
  rw [contains_iff_isInfix, lower_append, lowerWithin_eq_lower_iff.mpr h]
  exact List.infix_append _ _ _

theorem touchesCased_append (text more : List Char) :
    touchesCased (text ++ more) =
      if text.all isCaseIgnorable then touchesCased more else touchesCased text := by
  induction text with
  | nil => rfl
  | cons c text ih =>
    cases hc : isCaseIgnorable c with
    | true =>
      have hskip (rest : List Char) : touchesCased (c :: rest) = touchesCased rest := by
        simp [touchesCased, hc]
      rw [List.cons_append, hskip, hskip, ih, List.all_cons, hc, Bool.true_and]
    | false => simp [touchesCased, hc]

theorem touchesCased_of_all (h : text.all isCaseIgnorable) : touchesCased text = false := by
  have happend := touchesCased_append text []
  rw [List.append_nil, if_pos h] at happend
  exact happend

/-- If a part does not read alike everywhere, it does not behind any letter, or it does not in front
of any. -/
theorem not_readsAlike_letter (h : ¬ ReadsAlike before part after) :
    (∀ x, touchesCased [x] → ¬ ReadsAlike [x] part []) ∨
      (∀ x, touchesCased [x] → ¬ ReadsAlike [] part [x]) := by
  simp only [ReadsAlike, not_forall] at h
  obtain ⟨front, back, hpart, hdiffers⟩ := h
  by_cases hfront : front.reverse.all isCaseIgnorable
  · -- Nothing in the part is seen from the `Σ` to the left: a letter behind which it stands is.
    refine .inl fun x hx halike ↦ hdiffers ?_
    have hletter := halike front back hpart
    have hnone := touchesCased_of_all hfront
    simp only [endsWord, touchesCased_append, hfront, if_true, List.reverse_singleton, hx, hnone,
      List.append_nil, Bool.true_and, Bool.false_and, Bool.not_eq_false'] at hletter ⊢
    have hback : back.all isCaseIgnorable = false := by
      by_contra hall
      rw [touchesCased_of_all (by simpa using hall)] at hletter
      cases hletter
    simp [hback, hletter]
  · -- So it is the text after the part on which the reading depends.
    refine .inr fun x hx halike ↦ hdiffers ?_
    have hletter := halike front back hpart
    simp only [endsWord, touchesCased_append, hfront, Bool.false_eq_true, if_false,
      List.reverse_nil, List.append_nil, hx] at hletter ⊢
    by_cases hback : back.all isCaseIgnorable
    · have hnone := touchesCased_of_all hback
      simp_all
    · simp [hback]

/-- There is a letter which is its own lower case everywhere and not some given character. -/
theorem exists_letter (other : Option Char) :
    ∃ x, touchesCased [x] ∧ (∀ before after, lowerOne before x after = [x]) ∧ other ≠ some x := by
  by_cases hother : other = some 'a'
  · have hlower : lowerChar 'b' = 'b' := by decide
    exact ⟨'b', by decide +kernel, by simp [lowerOne, hlower], by simp [hother]⟩
  · have hlower : lowerChar 'a' = 'a' := by decide
    exact ⟨'a', by decide +kernel, by simp [lowerOne, hlower], hother⟩

/-- A text does not occur in another one of its length behind a letter that it does not begin with.
-/
theorem not_isInfix_cons {x : Char} (hlength : part.length = text.length) (hne : part ≠ text)
    (hhead : part.head? ≠ some x) : ¬ part <:+: x :: text := by
  intro hinfix
  rcases List.infix_cons_iff.mp hinfix with hprefix | hrest
  · cases part with
    | nil => exact hne (List.length_eq_zero_iff.mp hlength.symm).symm
    | cons d part => exact hhead (congrArg some (List.cons_prefix_cons.mp hprefix).1)
  · exact hne (hrest.eq_of_length hlength)

/-- A part is found in every text that has it exactly if it reads alike between any two texts. -/
theorem contains_lower_iff (part : List Char) :
    (∀ text, part <:+: text → contains (lower part) (lower text)) ↔
      ∀ before after, ReadsAlike before part after := by
  constructor
  · intro hfound before after
    by_contra hunlike
    have hlength (before after : List Char) :
        (lower part).length = (lowerWithin before part after).length := by
      rw [lower_eq_lowerWithin]
      exact length_lowerWithin _ _ _ _ _
    rcases not_readsAlike_letter hunlike with hbehind | hfront
    · obtain ⟨x, hcased, hsmall, hother⟩ := exists_letter (lower part).head?
      have hhere := hfound ([x] ++ part ++ []) (List.infix_append _ _ _)
      have hne : lower part ≠ lowerWithin [x] part [] := fun heq ↦
        hbehind x hcased (lowerWithin_eq_lower_iff.mp heq.symm)
      rw [contains_iff_isInfix, lower_append, lowerWithin, hsmall] at hhere
      refine not_isInfix_cons (hlength _ _) hne hother ?_
      simpa [lowerWithin, lowerAfter] using hhere
    · obtain ⟨x, hcased, hsmall, hother⟩ := exists_letter (lower part).reverse.head?
      have hhere := hfound ([] ++ part ++ [x]) (List.infix_append _ _ _)
      have hne : lower part ≠ lowerWithin [] part [x] := fun heq ↦
        hfront x hcased (lowerWithin_eq_lower_iff.mp heq.symm)
      have hlast (before : List Char) : lowerAfter before [x] = [x] :=
        congrArg (· ++ []) (hsmall before [])
      rw [contains_iff_isInfix, lower_append, hlast, ← List.reverse_infix] at hhere
      refine not_isInfix_cons ?_ (fun heq ↦ hne (List.reverse_injective heq)) hother
        (by simpa [lowerWithin] using hhere)
      rw [List.length_reverse, List.length_reverse]
      exact hlength _ _
  · rintro halike text ⟨before, after, rfl⟩
    exact (halike before after).contains_lower

end Errand.Text
