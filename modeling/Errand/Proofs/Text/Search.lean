import Errand.Proofs.Text.Repetition

/-!
# Searching a text from its end

A text is searched without going back: `Pattern.step` works from what the position after it left in
memory. `Remembers` says what a memory holds, `step_eq_run` that a step then comes to what matching
from its position comes to, and that it leaves the right memory behind. Hence `getD_table`: the
table of a text holds, for every position, the preferred match from there.

What is found is then the same as if the text were tried at one position after another
(`findAll_nil`, `findAll_skip`, `findAll_found`), for patterns that take a character at least.
-/

set_option autoImplicit false

namespace Errand.Text.Pattern

/-! ### Memories -/

/-- What a memory holds of a position: for every character of the pattern, what came of the rest
after it. -/
def Remembers : (p : Pattern) → Continue → (left : Nat) → List Char → p.Memory → Prop
  | .empty, _, _, _, _ | .mark _, _, _, _, _ => True
  | .one _, rest, left, text, kept => kept = rest left text
  | .seq p q, rest, left, text, kept =>
    p.Remembers (q.run rest) left text kept.1 ∧ q.Remembers rest left text kept.2
  | .either p q, rest, left, text, kept =>
    p.Remembers rest left text kept.1 ∧ q.Remembers rest left text kept.2
  | .many p, rest, left, text, kept => p.Remembers ((Pattern.many p).run rest) left text kept
  | .few p, rest, left, text, kept => p.Remembers ((Pattern.few p).run rest) left text kept

/-- A memory holds what comes of the rest from its position on, and nothing of what was before. -/
theorem Remembers.congr {p : Pattern} {rest rest' : Continue} {left : Nat} {text : List Char}
    {kept : p.Memory} (hkept : p.Remembers rest left text kept)
    (h : ∀ l ≤ left, ∀ t, rest l t = rest' l t) : p.Remembers rest' left text kept := by
  induction p generalizing rest rest' with
  | empty | mark number => trivial
  | one accepts => exact Eq.trans hkept (h left (Nat.le_refl left) text)
  | seq p q ihp ihq =>
    exact ⟨ihp hkept.1 fun l hl t ↦ run_congr q l t _ _ fun l' hl' ↦ h l' (by omega),
      ihq hkept.2 h⟩
  | either p q ihp ihq => exact ⟨ihp hkept.1 h, ihq hkept.2 h⟩
  | many p ih | few p ih =>
    exact ih hkept fun l hl t ↦ run_congr _ l t _ _ fun l' hl' ↦ h l' (by omega)

/-- The memory of the position after the first character, if there is one. -/
def RemembersTail (p : Pattern) (rest : Continue) (text : List Char) (kept : p.Memory) : Prop :=
  ∀ c tail, text = c :: tail → p.Remembers rest tail.length tail kept

/-- A repetition that begins at a position may not end there, but it remembers what a repetition
that began earlier remembers. -/
theorem RemembersTail.onward {p : Pattern} {rest : Continue} {text : List Char} {kept : p.Memory}
    (hkept : p.RemembersTail rest text kept) :
    p.RemembersTail (onward text.length rest) text kept := by
  rintro c tail rfl
  refine (hkept c tail rfl).congr fun l hl t ↦ ?_
  exact (onward_of_lt (by simp only [List.length_cons]; omega) rest t).symm

/-- A step comes to what matching comes to, and it leaves the right memory. -/
theorem step_eq_run (p : Pattern) (rest : Continue) (text : List Char) (kept : p.Memory)
    (hkept : p.RemembersTail rest text kept) :
    (p.step text.length text.head? kept (rest text.length text)).1 =
        p.run rest text.length text ∧
      p.Remembers rest text.length text
        (p.step text.length text.head? kept (rest text.length text)).2 := by
  induction p generalizing rest with
  | empty => exact ⟨rfl, trivial⟩
  | mark number => exact ⟨rfl, trivial⟩
  | one accepts =>
    refine ⟨?_, rfl⟩
    cases text with
    | nil => rfl
    | cons c tail =>
      have hlater : kept = rest tail.length tail := hkept c tail rfl
      simp [step, run, hlater]
  | seq p q ihp ihq =>
    obtain ⟨first, second⟩ := kept
    obtain ⟨hsecond, hsecondKept⟩ := ihq rest second fun c tail htext ↦ (hkept c tail htext).2
    have hfirst := ihp (q.run rest) first fun c tail htext ↦ (hkept c tail htext).1
    rw [← hsecond] at hfirst
    exact ⟨hfirst.1, hfirst.2, hsecondKept⟩
  | either p q ihp ihq =>
    obtain ⟨first, second⟩ := kept
    obtain ⟨hfirst, hfirstKept⟩ := ihp rest first fun c tail htext ↦ (hkept c tail htext).1
    obtain ⟨hsecond, hsecondKept⟩ := ihq rest second fun c tail htext ↦ (hkept c tail htext).2
    exact ⟨by simp only [step, run, hfirst, hsecond], hfirstKept, hsecondKept⟩
  | many p ih =>
    have hagain := (ih (onward text.length ((Pattern.many p).run rest)) kept
      (RemembersTail.onward hkept)).1
    rw [onward_self] at hagain
    have houtcome : (p.step text.length text.head? kept none).1.or (rest text.length text) =
        (Pattern.many p).run rest text.length text := by
      rw [hagain, run_many]
    refine ⟨houtcome, ?_⟩
    have hnext := (ih ((Pattern.many p).run rest) kept hkept).2
    rw [← houtcome] at hnext
    exact hnext
  | few p ih =>
    have hagain := (ih (onward text.length ((Pattern.few p).run rest)) kept
      (RemembersTail.onward hkept)).1
    rw [onward_self] at hagain
    have houtcome : (rest text.length text).or (p.step text.length text.head? kept none).1 =
        (Pattern.few p).run rest text.length text := by
      rw [hagain, run_few]
    refine ⟨houtcome, ?_⟩
    have hnext := (ih ((Pattern.few p).run rest) kept hkept).2
    rw [← houtcome] at hnext
    exact hnext

/-! ### The table of a text -/

/-- The rest of a whole pattern: nothing more is asked. -/
def finish : Continue :=
  fun _ _ ↦ some []

/-- The marks of the preferred match at the start of a text. -/
def matchAt (p : Pattern) (text : List Char) : Option Marks :=
  p.run finish text.length text

/-- The table of a text has a place for every position, and it holds the preferred match there. -/
theorem table_spec (p : Pattern) (text : List Char) :
    (p.table text).size = text.length + 1 ∧
      ∀ before after, text = before ++ after →
        (p.table text).getD after.length none = p.matchAt after := by
  suffices hfold : ∀ text : List Char, ∃ kept table,
      text.foldr (fun c (state : p.Memory × Table) ↦
          ((p.step state.2.size (some c) state.1 (some [])).2,
            state.2.push (p.step state.2.size (some c) state.1 (some [])).1))
        ((p.step 0 none p.noMemory (some [])).2,
          (#[] : Table).push (p.step 0 none p.noMemory (some [])).1) = (kept, table) ∧
      p.Remembers finish text.length text kept ∧ table.size = text.length + 1 ∧
      ∀ before after, text = before ++ after →
        table.getD after.length none = p.matchAt after by
    obtain ⟨kept, table, htable, -, hsize, hholds⟩ := hfold text
    have heq : p.table text = table := congrArg Prod.snd htable
    rw [heq]
    exact ⟨hsize, hholds⟩
  intro text
  induction text with
  | nil =>
    have hstep := step_eq_run p finish [] p.noMemory fun c tail htext ↦ by
      cases htext
    refine ⟨_, _, rfl, hstep.2, rfl, fun before after htext ↦ ?_⟩
    obtain ⟨-, rfl⟩ := List.append_eq_nil_iff.mp htext.symm
    exact hstep.1
  | cons c text ih =>
    obtain ⟨kept, table, hfold, hkept, hsize, hholds⟩ := ih
    have hstep := step_eq_run p finish (c :: text) kept fun d tail htext ↦ by
      cases htext
      exact hkept
    rw [List.foldr_cons, hfold]
    simp only [hsize]
    refine ⟨_, _, rfl, hstep.2, by simp [hsize], fun before after htext ↦ ?_⟩
    rcases before with _ | ⟨d, before⟩
    · obtain rfl : c :: text = after := htext
      have hlast : (c :: text).length = table.size := by simp [hsize]
      simp only [Array.getD_eq_getD_getElem?, hlast, Array.getElem?_push_size]
      exact hstep.1
    · obtain ⟨-, rfl⟩ := List.cons.inj htext
      have hbelow : after.length < table.size := by
        have hsplit : table.size = (before ++ after).length + 1 := hsize
        rw [hsplit, List.length_append]
        omega
      rw [← hholds before after rfl]
      simp [Array.getD_eq_getD_getElem?, Array.getElem?_push, Nat.ne_of_lt hbelow]

/-! ### What is found -/

/-- The preferred match at the start of a text. -/
def first? (p : Pattern) (text : List Char) : Option Match :=
  ((Pattern.seq p (.mark endMark)).matchAt text).map fun marks ↦
    { start := text.length, stop := (marks.lookup endMark).getD 0, marks }

theorem here_table (p : Pattern) (before after : List Char) :
    collect.here ((Pattern.seq p (.mark endMark)).table (before ++ after)) after.length =
      p.first? after := by
  rw [collect.here, (table_spec _ (before ++ after)).2 before after rfl]
  rfl

theorem collect_congr {table table' : Table} (left limit : Nat)
    (h : ∀ l ≤ left, collect.here table l = collect.here table' l) :
    collect table left limit = collect table' left limit := by
  induction left generalizing limit with
  | zero => simp only [collect, h 0 (Nat.le_refl 0)]
  | succ left ih =>
    simp only [collect, h (left + 1) (Nat.le_refl _)]
    have hlater := fun limit ↦ ih limit fun l hl ↦ h l (by omega)
    simp only [hlater]

/-- Positions before the limit are passed over. -/
theorem collect_of_ge (table : Table) {left limit : Nat} (h : limit ≤ left) :
    collect table left limit = collect table limit limit := by
  induction left with
  | zero =>
    obtain rfl : limit = 0 := by omega
    rfl
  | succ left ih =>
    by_cases heq : limit = left + 1
    · rw [heq]
    · rw [collect, if_neg (by omega), ih (by omega)]

/-- If nothing empty matches at the end, a limit beyond the position does not matter. -/
theorem collect_of_le {table : Table} (hempty : collect.here table 0 = none) {left limit : Nat}
    (h : left ≤ limit) : collect table left limit = collect table left left := by
  induction left generalizing limit with
  | zero => simp [collect, hempty]
  | succ left ih => simp only [collect, h, Nat.le_refl, if_true, ih (Nat.le_of_succ_le h),
      ih (Nat.le_succ left)]

theorem findAll_suffix (p : Pattern) (before after : List Char) :
    collect ((Pattern.seq p (.mark endMark)).table (before ++ after)) after.length after.length =
      p.findAll after := by
  refine collect_congr _ _ fun l hl ↦ ?_
  have hsuffix : (after.drop (after.length - l)).length = l := by simp; omega
  have hafter := here_table p (after.take (after.length - l)) (after.drop (after.length - l))
  have hwhole := here_table p (before ++ after.take (after.length - l))
    (after.drop (after.length - l))
  rw [List.append_assoc] at hwhole
  rw [List.take_append_drop, hsuffix] at hafter hwhole
  rw [hwhole, hafter]

/-- After a match, the search goes on where it stops. -/
theorem findAll_found {p : Pattern} {taken text : List Char} {found : Match} (htaken : taken ≠ [])
    (h : p.first? (taken ++ text) = some found) (hstop : found.stop = text.length) :
    p.findAll (taken ++ text) = found :: p.findAll text := by
  obtain ⟨c, tail, rfl⟩ := List.exists_cons_of_ne_nil htaken
  have hhere := here_table p [] (c :: tail ++ text)
  rw [h] at hhere
  have hle : text.length ≤ (tail ++ text).length := by simp
  have hcollect := collect_of_ge
    ((Pattern.seq p (.mark endMark)).table (c :: (tail ++ text))) hle
  simp only [List.nil_append, List.cons_append, List.length_cons] at hhere
  simp only [findAll, List.cons_append, List.length_cons, collect, Nat.le_refl, if_true, hhere,
    hstop, Nat.min_eq_left hle]
  rw [hcollect]
  exact congrArg (found :: ·) (findAll_suffix p (c :: tail) text)

variable {p : Pattern} (hempty : p.first? [] = none)
include hempty

/-- Nothing is found in the empty text. -/
theorem findAll_nil : p.findAll [] = [] := by
  have hhere := here_table p [] []
  rw [hempty] at hhere
  simp only [List.append_nil, List.length_nil] at hhere
  simp [findAll, collect, hhere]

/-- A position without a match is passed over. -/
theorem findAll_skip {c : Char} {text : List Char} (h : p.first? (c :: text) = none) :
    p.findAll (c :: text) = p.findAll text := by
  have hhere := here_table p [] (c :: text)
  rw [h] at hhere
  have hzero := here_table p (c :: text) []
  rw [hempty, List.append_nil] at hzero
  have hcollect := collect_of_le hzero (Nat.le_succ text.length)
  simp only [List.nil_append, List.length_cons] at hhere
  simp only [findAll, List.length_cons, collect, Nat.le_refl, if_true, hhere]
  rw [hcollect]
  exact findAll_suffix p [c] text

end Errand.Text.Pattern
