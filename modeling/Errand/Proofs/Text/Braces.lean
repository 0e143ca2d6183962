import Mathlib

/-!
# Groups of braces

`Closes limit depth text` says that a text that is read at a depth of braces comes back to depth
zero with its last character and not before, and that it never goes deeper than a limit. A group is
an opening brace and a text that closes it; where it ends depends on nothing but its start
(`IsGroup.unique`).

`level depth text` is the depth after a text, unless the text comes back to zero on its way. A text
that sustains every depth closes nothing that was opened before it (`Sustains`): texts without
braces, groups, and groups that are never closed.
-/

set_option autoImplicit false

namespace Errand.Text

/-- Whether a text at a depth of braces ends where the depth comes back to zero. -/
def Closes (limit : Nat) : (depth : Nat) → List Char → Prop
  | 0, text => text = []
  | _ + 1, [] => False
  | depth + 1, c :: text =>
    if c = '{' then depth + 1 < limit ∧ Closes limit (depth + 2) text
    else if c = '}' then Closes limit depth text
    else Closes limit (depth + 1) text

/-- A group of braces, from its opening brace to its closing one. -/
def IsGroup (limit : Nat) (text : List Char) : Prop :=
  ∃ inner, text = '{' :: inner ∧ Closes limit 1 inner

section Closing

variable {limit depth : Nat} {c : Char} {text : List Char}

theorem closes_zero : Closes limit 0 text ↔ text = [] := by
  cases text <;> simp [Closes]

theorem closes_open : Closes limit (depth + 1) ('{' :: text) ↔
    depth + 1 < limit ∧ Closes limit (depth + 2) text := by
  simp [Closes]

theorem closes_close : Closes limit (depth + 1) ('}' :: text) ↔ Closes limit depth text := by
  simp [Closes]

theorem closes_plain (hopen : c ≠ '{') (hclose : c ≠ '}') :
    Closes limit (depth + 1) (c :: text) ↔ Closes limit (depth + 1) text := by
  simp [Closes, hopen, hclose]

instance decidableCloses (limit : Nat) : (depth : Nat) → (text : List Char) →
    Decidable (Closes limit depth text)
  | 0, _ => decidable_of_iff _ closes_zero.symm
  | _ + 1, [] => .isFalse id
  | depth + 1, c :: text =>
    have := decidableCloses limit (depth + 2) text
    have := decidableCloses limit (depth + 1) text
    have := decidableCloses limit depth text
    inferInstanceAs (Decidable (if c = '{' then depth + 1 < limit ∧ Closes limit (depth + 2) text
      else if c = '}' then Closes limit depth text else Closes limit (depth + 1) text))

instance (limit : Nat) : (text : List Char) → Decidable (IsGroup limit text)
  | [] => .isFalse fun ⟨_, htext, _⟩ ↦ nomatch htext
  | c :: inner => decidable_of_iff (c = '{' ∧ Closes limit 1 inner) (by simp [IsGroup])

/-- Characters other than braces do not matter. -/
theorem closes_append {front : List Char} (hfront : ∀ c ∈ front, c ≠ '{' ∧ c ≠ '}') :
    Closes limit (depth + 1) (front ++ text) ↔ Closes limit (depth + 1) text := by
  induction front with
  | nil => rfl
  | cons c front ih =>
    have hc := hfront c List.mem_cons_self
    rw [List.cons_append, closes_plain hc.1 hc.2,
      ih fun d hd ↦ hfront d (List.mem_cons_of_mem c hd)]

/-- Where a text closes depends on nothing but its start. -/
theorem Closes.unique {limit' : Nat} {first second rest rest' : List Char}
    (hfirst : Closes limit depth first) (hsecond : Closes limit' depth second)
    (h : first ++ rest = second ++ rest') : first = second := by
  induction first generalizing depth second with
  | nil =>
    cases depth with
    | zero => exact (closes_zero.mp hsecond).symm
    | succ depth => exact hfirst.elim
  | cons c first ih =>
    cases depth with
    | zero => exact absurd (closes_zero.mp hfirst) (List.cons_ne_nil c first)
    | succ depth =>
      cases second with
      | nil => exact hsecond.elim
      | cons d second =>
        obtain ⟨rfl, htail⟩ := List.cons.inj h
        by_cases hopen : c = '{'
        · subst hopen
          rw [closes_open] at hfirst hsecond
          rw [ih hfirst.2 hsecond.2 htail]
        · by_cases hclose : c = '}'
          · subst hclose
            rw [closes_close] at hfirst hsecond
            rw [ih hfirst hsecond htail]
          · rw [closes_plain hopen hclose] at hfirst hsecond
            rw [ih hfirst hsecond htail]

/-- Where a group ends depends on nothing but its start. -/
theorem IsGroup.unique {limit' : Nat} {first second rest rest' : List Char}
    (hfirst : IsGroup limit first) (hsecond : IsGroup limit' second)
    (h : first ++ rest = second ++ rest') : first = second := by
  obtain ⟨inner, rfl, hinner⟩ := hfirst
  obtain ⟨inner', rfl, hinner'⟩ := hsecond
  rw [hinner.unique hinner' (List.cons.inj h).2]

theorem Closes.getLast? (h : Closes limit (depth + 1) text) : text.getLast? = some '}' := by
  induction text generalizing depth with
  | nil => exact h.elim
  | cons c text ih =>
    by_cases hopen : c = '{'
    · subst hopen
      rw [List.getLast?_cons, ih (closes_open.mp h).2]
      rfl
    · by_cases hclose : c = '}'
      · subst hclose
        rw [closes_close] at h
        cases depth with
        | zero =>
          obtain rfl := closes_zero.mp h
          rfl
        | succ depth =>
          rw [List.getLast?_cons, ih h]
          rfl
      · rw [closes_plain hopen hclose] at h
        rw [List.getLast?_cons, ih h]
        rfl

/-- A group ends with a closing brace. -/
theorem IsGroup.getLast? (h : IsGroup limit text) : text.getLast? = some '}' := by
  obtain ⟨inner, rfl, hinner⟩ := h
  rw [List.getLast?_cons, hinner.getLast?]
  rfl

theorem IsGroup.head? (h : IsGroup limit text) : text.head? = some '{' := by
  obtain ⟨inner, rfl, -⟩ := h
  rfl

end Closing

/-! ### Depths -/

/-- The depth after a text that is read at a depth of braces, unless the depth comes back to zero.
-/
def level : (depth : Nat) → List Char → Option Nat
  | 0, _ => none
  | depth + 1, [] => some (depth + 1)
  | depth + 1, c :: text =>
    if c = '{' then level (depth + 2) text
    else if c = '}' then level depth text
    else level (depth + 1) text

/-- Whether a text, at any depth, leaves everything open that was open before it. -/
def Sustains (text : List Char) : Prop :=
  ∀ depth, ∃ more, level (depth + 1) text = some (depth + more + 1)

section Depths

variable {limit depth : Nat} {text front back : List Char}

@[simp] theorem level_zero (text : List Char) : level 0 text = none := by
  cases text <;> rfl

@[simp] theorem level_nil (depth : Nat) : level (depth + 1) [] = some (depth + 1) := rfl

theorem level_cons (depth : Nat) (c : Char) (text : List Char) :
    level (depth + 1) (c :: text) = if c = '{' then level (depth + 2) text
      else if c = '}' then level depth text else level (depth + 1) text := rfl

theorem level_append (depth : Nat) (front back : List Char) :
    level depth (front ++ back) = (level depth front).bind (level · back) := by
  induction front generalizing depth with
  | nil => cases depth <;> simp
  | cons c front ih =>
    cases depth with
    | zero => simp
    | succ depth =>
      simp only [List.cons_append, level_cons]
      split
      · exact ih _
      · split <;> exact ih _

/-- What comes back to zero somewhere has done so. -/
theorem level_of_append {more : Nat} (h : level depth (front ++ back) = some more) :
    ∃ between, level depth front = some between := by
  rw [level_append] at h
  obtain ⟨between, hbetween, -⟩ := Option.bind_eq_some_iff.mp h
  exact ⟨between, hbetween⟩

theorem Closes.level_eq (h : Closes limit depth text) (more : Nat) :
    level (depth + more) text = if more = 0 then none else some more := by
  induction text generalizing depth with
  | nil =>
    obtain rfl : depth = 0 := by
      cases depth with
      | zero => rfl
      | succ depth => exact h.elim
    cases more <;> simp
  | cons c text ih =>
    cases depth with
    | zero => exact absurd (closes_zero.mp h) (List.cons_ne_nil c text)
    | succ depth =>
      rw [Nat.add_right_comm, level_cons]
      by_cases hopen : c = '{'
      · subst hopen
        rw [if_pos rfl, Nat.add_right_comm]
        exact ih (closes_open.mp h).2
      · by_cases hclose : c = '}'
        · subst hclose
          rw [if_neg (by decide), if_pos rfl]
          exact ih (closes_close.mp h)
        · rw [if_neg hopen, if_neg hclose, Nat.add_right_comm]
          exact ih ((closes_plain hopen hclose).mp h)

/-- Where the depth comes back to zero, a text closes. -/
theorem exists_closes_of_level (h : level (depth + 1) text = none)
    (hlimit : depth + 1 + text.length ≤ limit) :
    ∃ front back, text = front ++ back ∧ Closes limit (depth + 1) front := by
  induction text generalizing depth with
  | nil => simp at h
  | cons c text ih =>
    rw [List.length_cons] at hlimit
    rw [level_cons] at h
    by_cases hopen : c = '{'
    · subst hopen
      obtain ⟨front, back, rfl, hfront⟩ := ih h (by omega)
      exact ⟨'{' :: front, back, rfl, closes_open.mpr ⟨by omega, hfront⟩⟩
    · by_cases hclose : c = '}'
      · subst hclose
        cases depth with
        | zero => exact ⟨['}'], text, rfl, closes_close.mpr (closes_zero.mpr rfl)⟩
        | succ depth =>
          obtain ⟨front, back, rfl, hfront⟩ := ih h (by omega)
          exact ⟨'}' :: front, back, rfl, closes_close.mpr hfront⟩
      · rw [if_neg hopen, if_neg hclose] at h
        obtain ⟨front, back, rfl, hfront⟩ := ih h (by omega)
        exact ⟨c :: front, back, rfl, (closes_plain hopen hclose).mpr hfront⟩

/-- A greater depth at the start is a greater depth at the end. -/
theorem level_add {after : Nat} (h : level depth text = some after) (more : Nat) :
    level (depth + more) text = some (after + more) := by
  induction text generalizing depth with
  | nil =>
    cases depth with
    | zero => simp at h
    | succ depth =>
      obtain rfl : depth + 1 = after := by simpa using h
      rw [Nat.add_right_comm]
      rfl
  | cons c text ih =>
    cases depth with
    | zero => simp at h
    | succ depth =>
      rw [Nat.add_right_comm, level_cons]
      rw [level_cons] at h
      by_cases hopen : c = '{'
      · subst hopen
        rw [if_pos rfl] at h ⊢
        rw [Nat.add_right_comm]
        exact ih h
      · rw [if_neg hopen] at h ⊢
        by_cases hclose : c = '}'
        · subst hclose
          rw [if_pos rfl] at h ⊢
          exact ih h
        · rw [if_neg hclose] at h ⊢
          rw [Nat.add_right_comm]
          exact ih h

theorem pos_of_level {after : Nat} (h : level depth text = some after) : 0 < after := by
  induction text generalizing depth with
  | nil =>
    cases depth with
    | zero => simp at h
    | succ depth =>
      obtain rfl : depth + 1 = after := by simpa using h
      exact Nat.succ_pos depth
  | cons c text ih =>
    cases depth with
    | zero => simp at h
    | succ depth =>
      rw [level_cons] at h
      split at h
      · exact ih h
      · split at h <;> exact ih h

/-! ### Texts that close nothing before them -/

theorem Sustains.append (hfront : Sustains front) (hback : Sustains back) :
    Sustains (front ++ back) := by
  intro depth
  obtain ⟨more, hmore⟩ := hfront depth
  obtain ⟨more', hmore'⟩ := hback (depth + more)
  refine ⟨more + more', ?_⟩
  rw [level_append, hmore, Option.bind_some, hmore', Nat.add_assoc depth more more']

theorem sustains_of_notMem (hopen : '{' ∉ text) (hclose : '}' ∉ text) : Sustains text := by
  intro depth
  refine ⟨0, ?_⟩
  induction text with
  | nil => rfl
  | cons c text ih =>
    rw [List.mem_cons, not_or] at hopen hclose
    rw [level_cons, if_neg (Ne.symm hopen.1), if_neg (Ne.symm hclose.1)]
    exact ih hopen.2 hclose.2

/-- A text in which nothing is closed may open as much as it likes. -/
theorem sustains_of_noClose (hclose : '}' ∉ text) : Sustains text := by
  induction text with
  | nil => exact fun depth ↦ ⟨0, rfl⟩
  | cons c text ih =>
    rw [List.mem_cons, not_or] at hclose
    intro depth
    rw [level_cons, if_neg (Ne.symm hclose.1)]
    split
    · obtain ⟨more, hmore⟩ := ih hclose.2 (depth + 1)
      exact ⟨more + 1, by rw [hmore]; congr 1; omega⟩
    · exact ih hclose.2 depth

theorem IsGroup.sustains (h : IsGroup limit text) : Sustains text := by
  obtain ⟨inner, rfl, hinner⟩ := h
  intro depth
  refine ⟨0, ?_⟩
  rw [level_cons, if_pos rfl, Nat.add_comm depth 2]
  have hlevel := hinner.level_eq (depth + 1)
  rw [if_neg (Nat.succ_ne_zero depth)] at hlevel
  rw [← hlevel]
  congr 1
  omega

/-- A group that is not closed leaves everything open. -/
theorem sustains_of_level {inner : List Char} {after : Nat} (h : level 1 inner = some after) :
    Sustains ('{' :: inner) := by
  intro depth
  refine ⟨after, ?_⟩
  have hlevel := level_add h (depth + 1)
  rw [level_cons, if_pos rfl]
  have hdepth : depth + 2 = 1 + (depth + 1) := by omega
  rw [hdepth, hlevel]
  congr 1
  omega

/-- Braces around a text that sustains are a text that sustains. -/
theorem Sustains.braced (h : Sustains text) : Sustains ('{' :: (text ++ ['}'])) := by
  intro depth
  obtain ⟨more, hmore⟩ := h (depth + 1)
  refine ⟨more, ?_⟩
  rw [level_cons, if_pos rfl, level_append, hmore, Option.bind_some, Nat.add_right_comm depth 1,
    level_cons, if_neg (by decide), if_pos rfl, level_nil]

/-- No group ends inside braces around a text that sustains. -/
theorem IsGroup.not_prefix_of_sustains (h : IsGroup limit front) (htext : Sustains text) :
    ¬ front <+: '{' :: text := by
  rintro ⟨back, hback⟩
  obtain ⟨inner, rfl, hinner⟩ := h
  obtain ⟨more, hmore⟩ := htext 0
  rw [← (List.cons.inj hback).2] at hmore
  obtain ⟨between, hbetween⟩ := level_of_append hmore
  have hnone : level 1 inner = none := hinner.level_eq 0
  rw [hnone] at hbetween
  cases hbetween

/-- What is opened before a text that sustains is closed before it, or never. -/
theorem Closes.eq_nil_of_sustains {beyond : List Char} (h : Closes limit 1 (front ++ beyond))
    (hsustains : Sustains (beyond ++ back)) : beyond = [] := by
  cases hlevel : level 1 front with
  | none =>
    obtain ⟨inner, rest, rfl, hinner⟩ := exists_closes_of_level hlevel (Nat.le_refl _)
    have heq : inner ++ rest ++ beyond = inner :=
      h.unique hinner (by rw [List.append_nil, List.append_assoc])
    rw [List.append_assoc] at heq
    exact (List.append_eq_nil_iff.mp (List.append_right_eq_self.mp heq)).2
  | some depth =>
    obtain ⟨depth, rfl⟩ := Nat.exists_eq_succ_of_ne_zero (Nat.ne_of_gt (pos_of_level hlevel))
    obtain ⟨more, hmore⟩ := hsustains depth
    obtain ⟨between, hbetween⟩ := level_of_append hmore
    have hnone : level 1 (front ++ beyond) = none := h.level_eq 0
    rw [level_append, hlevel, Option.bind_some, hbetween] at hnone
    cases hnone

end Depths

end Errand.Text
