import Mathlib
import Errand.Text.Pattern

/-!
# Matching, one repetition at a time

`Pattern.run` counts its repetitions down from the number of characters left. `run_many` and
`run_few` show what that comes to: one more repetition, which has to move on, and the same pattern
again, before the rest or after it. They rest on `run_congr`: what remains to be matched is only
asked at the position reached, and never at an earlier one.

The other lemmas say how single parts of a pattern are tried when the order of preference leaves no
choice: a text that begins with the literal, an optional part that succeeds or fails, a class of
characters that is followed by a character outside it.
-/

set_option autoImplicit false

namespace Errand.Text.Pattern

-- Almost every proof below takes one of these two apart, so their equations are made once, here.
attribute [local simp] run iterate

/-- What remains to be matched, unless the position has not moved on from `left`. -/
def onward (left : Nat) (rest : Continue) : Continue :=
  fun l text ↦ if l < left then rest l text else none

theorem onward_of_lt {left l : Nat} (h : l < left) (rest : Continue) (text : List Char) :
    onward left rest l text = rest l text :=
  if_pos h

theorem onward_self (left : Nat) (rest : Continue) (text : List Char) :
    onward left rest left text = none :=
  if_neg (Nat.lt_irrefl left)

/-! ### The rest is asked from here on -/

theorem iterate_congr {greedy : Bool} {step : Continue → Continue}
    (hstep : ∀ (left : Nat) (text : List Char) (rest rest' : Continue),
      (∀ l ≤ left, ∀ t, rest l t = rest' l t) → step rest left text = step rest' left text)
    {rest rest' : Continue} (fuel : Nat) (left : Nat) (text : List Char)
    (h : ∀ l ≤ left, ∀ t, rest l t = rest' l t) :
    iterate greedy step rest fuel left text = iterate greedy step rest' fuel left text := by
  induction fuel generalizing left text with
  | zero => exact h left (Nat.le_refl left) text
  | succ fuel ih =>
    have hagain : step (onward left (iterate greedy step rest fuel)) left text =
        step (onward left (iterate greedy step rest' fuel)) left text := by
      refine hstep left text _ _ fun l hl t ↦ ?_
      unfold onward
      split
      · exact ih l t fun l' hl' ↦ h l' (by omega)
      · rfl
    simp only [iterate]
    change (if greedy then
        (step (onward left (iterate greedy step rest fuel)) left text).or (rest left text)
      else (rest left text).or (step (onward left (iterate greedy step rest fuel)) left text)) = _
    rw [hagain, h left (Nat.le_refl left) text]
    rfl

/-- A pattern asks what remains to be matched only from its position on. -/
theorem run_congr (p : Pattern) (left : Nat) (text : List Char) (rest rest' : Continue)
    (h : ∀ l ≤ left, ∀ t, rest l t = rest' l t) : p.run rest left text = p.run rest' left text := by
  induction p generalizing left text rest rest' with
  | empty => exact h left (Nat.le_refl left) text
  | one accepts =>
    cases text with
    | nil => rfl
    | cons c text => simp only [run, h (left - 1) (Nat.sub_le left 1) text]
  | mark number => simp only [run, h left (Nat.le_refl left) text]
  | seq p q ihp ihq =>
    exact ihp left text _ _ fun l hl t ↦ ihq l t _ _ fun l' hl' ↦ h l' (by omega)
  | either p q ihp ihq => simp only [run, ihp left text _ _ h, ihq left text _ _ h]
  | many p ih => exact iterate_congr ih left left text h
  | few p ih => exact iterate_congr ih left left text h

/-- Nothing is matched if nothing can follow. -/
theorem run_eq_none (p : Pattern) (left : Nat) (text : List Char) (rest : Continue)
    (h : ∀ l ≤ left, ∀ t, rest l t = none) : p.run rest left text = none := by
  rw [run_congr p left text rest (fun _ _ ↦ none) h]
  clear h
  induction p generalizing left text with
  | empty => rfl
  | one accepts => cases text <;> simp [run]
  | mark number => rfl
  | seq p q ihp ihq =>
    rw [run, run_congr p left text _ (fun _ _ ↦ none) fun l _ t ↦ ihq l t, ihp]
  | either p q ihp ihq => simp [run, ihp, ihq]
  | many p ih | few p ih =>
    have hiterate : ∀ (greedy : Bool) (fuel left : Nat) (text : List Char),
        iterate greedy p.run (fun _ _ ↦ none) fuel left text = none := by
      intro greedy fuel
      induction fuel with
      | zero => exact fun left text ↦ rfl
      | succ fuel ihfuel =>
        intro left text
        have hagain : p.run (fun l t ↦ if l < left then
            iterate greedy p.run (fun _ _ ↦ none) fuel l t else none) left text = none := by
          rw [run_congr p left text _ (fun _ _ ↦ none) fun l _ t ↦ by simp [ihfuel], ih]
        simp [iterate, hagain]
    exact hiterate _ left left text

/-! ### Repetitions -/

theorem iterate_succ (greedy : Bool) (step : Continue → Continue) (rest : Continue)
    (fuel left : Nat) (text : List Char) :
    iterate greedy step rest (fuel + 1) left text =
      if greedy then
        (step (onward left (iterate greedy step rest fuel)) left text).or (rest left text)
      else (rest left text).or (step (onward left (iterate greedy step rest fuel)) left text) := rfl

/-- A repetition takes a character, so no more repetitions are counted than characters are left. -/
theorem iterate_eq_of_le (greedy : Bool) (p : Pattern) (rest : Continue) {fuel left : Nat}
    (text : List Char) (hfuel : left ≤ fuel) :
    iterate greedy p.run rest fuel left text = iterate greedy p.run rest left left text := by
  induction left using Nat.strongRecOn generalizing fuel text with
  | ind left ih =>
    rcases fuel with _ | fuel
    · obtain rfl : left = 0 := by omega
      rfl
    rcases left with _ | left
    · have hagain : p.run (onward 0 (iterate greedy p.run rest fuel)) 0 text = none :=
        run_eq_none p 0 text _ fun l hl t ↦ if_neg (by omega)
      rw [iterate_succ, hagain]
      cases greedy <;> simp [iterate]
    · have hagain : p.run (onward (left + 1) (iterate greedy p.run rest fuel)) (left + 1) text =
          p.run (onward (left + 1) (iterate greedy p.run rest left)) (left + 1) text := by
        refine run_congr p _ text _ _ fun l _ t ↦ ?_
        unfold onward
        split
        · rw [ih l (by omega) t (by omega : l ≤ fuel), ih l (by omega) t (by omega : l ≤ left)]
        · rfl
      rw [iterate_succ, iterate_succ, hagain]

theorem run_onward_iterate (greedy : Bool) (p : Pattern) (rest : Continue) (left : Nat)
    (text : List Char) :
    iterate greedy p.run rest left left text =
      if greedy then
        (p.run (onward left fun l t ↦ iterate greedy p.run rest l l t) left text).or
          (rest left text)
      else (rest left text).or
        (p.run (onward left fun l t ↦ iterate greedy p.run rest l l t) left text) := by
  rw [← iterate_eq_of_le greedy p rest text (Nat.le_succ left), iterate_succ,
    run_congr p left text (onward left (iterate greedy p.run rest left))
      (onward left fun l t ↦ iterate greedy p.run rest l l t)]
  intro l _ t
  unfold onward
  split
  · exact iterate_eq_of_le greedy p rest t (by omega)
  · rfl

/-- As many repetitions as possible: one more and again, or else the rest. -/
theorem run_many (p : Pattern) (rest : Continue) (left : Nat) (text : List Char) :
    (Pattern.many p).run rest left text =
      (p.run (onward left ((Pattern.many p).run rest)) left text).or (rest left text) :=
  run_onward_iterate true p rest left text

/-- As few repetitions as possible: the rest, or else one more and again. -/
theorem run_few (p : Pattern) (rest : Continue) (left : Nat) (text : List Char) :
    (Pattern.few p).run rest left text =
      (rest left text).or (p.run (onward left ((Pattern.few p).run rest)) left text) :=
  run_onward_iterate false p rest left text

/-! ### Parts that are tried without a choice -/

section Tried

variable {p : Pattern} {rest : Continue} {marks : Marks}

/-- The first side of a choice is matched if that leads on. -/
theorem run_either_of_some {q : Pattern} {left : Nat} {text : List Char}
    (h : p.run rest left text = some marks) :
    (Pattern.either p q).run rest left text = some marks := by
  rw [run, h]
  rfl

/-- The second side of a choice is left if the first one cannot be matched. -/
theorem run_either_of_none {q : Pattern} {left : Nat} {text : List Char}
    (h : p.run rest left text = none) :
    (Pattern.either p q).run rest left text = q.run rest left text := by
  rw [run, h]
  rfl

/-- An optional part is matched if that leads on. -/
theorem run_optional_of_some {left : Nat} {text : List Char}
    (h : p.run rest left text = some marks) : (optional p).run rest left text = some marks :=
  run_either_of_some h

/-- An optional part is left out if it cannot be matched. -/
theorem run_optional_of_none {left : Nat} {text : List Char} (h : p.run rest left text = none) :
    (optional p).run rest left text = rest left text :=
  run_either_of_none h

theorem run_char_cons (c : Char) (text : List Char) :
    (char c).run rest (c :: text).length (c :: text) = rest text.length text := by
  simp [char, run]

/-- A character is not matched where another one stands. -/
theorem run_char_of_ne {c : Char} {left : Nat} {text : List Char}
    (h : ∀ d ∈ text.head?, d ≠ c) : (char c).run rest left text = none := by
  cases text with
  | nil => rfl
  | cons d text => simp [char, run, h d rfl]

theorem run_all_map_char (cs text : List Char) :
    (all (cs.map char)).run rest (cs ++ text).length (cs ++ text) = rest text.length text := by
  induction cs with
  | nil => rfl
  | cons c cs ih =>
    cases cs with
    | nil => exact run_char_cons c text
    | cons d cs => exact (run_char_cons c _).trans ih

/-- A literal is matched where it stands. -/
theorem run_literal (word : String) (text : List Char) :
    (literal word).run rest (word.toList ++ text).length (word.toList ++ text) =
      rest text.length text :=
  run_all_map_char word.toList text

/-- Characters of a class are all taken, if that leads on. -/
theorem run_many_one {accepts : Char → Bool} {cs text : List Char} (hcs : ∀ c ∈ cs, accepts c)
    (hhead : ∀ c ∈ text.head?, accepts c = false) (h : rest text.length text = some marks) :
    (Pattern.many (.one accepts)).run rest (cs ++ text).length (cs ++ text) = some marks := by
  induction cs with
  | nil =>
    have hstop : (Pattern.one accepts).run
        (onward text.length ((Pattern.many (.one accepts)).run rest)) text.length text = none := by
      cases text with
      | nil => rfl
      | cons c text => simp [run, hhead c rfl]
    rw [List.nil_append, run_many, hstop, h]
    rfl
  | cons c cs ih =>
    have hmore : (Pattern.one accepts).run
        (onward (c :: (cs ++ text)).length ((Pattern.many (.one accepts)).run rest))
        (c :: (cs ++ text)).length (c :: (cs ++ text)) = some marks := by
      have hlt : (cs ++ text).length < (c :: (cs ++ text)).length := by simp
      simp only [run, hcs c List.mem_cons_self, if_true, List.length_cons, Nat.add_sub_cancel]
      rw [← List.length_cons (a := c), onward_of_lt hlt]
      exact ih fun d hd ↦ hcs d (List.mem_cons_of_mem c hd)
    rw [List.cons_append, run_many, hmore]
    rfl

end Tried

end Errand.Text.Pattern
