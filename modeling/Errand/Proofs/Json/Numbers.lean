import Errand.Proofs.Json.Grammar

/-!
# Numbers as they are written

Every text of a number is read, with a fraction and an exponent or without
(`IsNumberText.isNumber`). The writer writes such a text for every number
(`isNumberText_writeNumber`). Zeros may come after the digits of a number that is not zero, but
these are not all zeros themselves, because zero does not round to it (`digits_shortest`).
-/

set_option autoImplicit false

namespace Errand.Json

/-! ### Reading -/

/-- A fraction is read up to what does not go on with it. -/
theorem readFraction?_of_isFraction {fraction : List Char} (h : IsFraction fraction) :
    ∃ value, ∀ more : List Char, (∀ c ∈ more.head?, c.isDigit = false ∧ c ≠ '.') →
      readFraction? (fraction ++ more) = .ok (value, more) := by
  rcases h with rfl | ⟨digits, hdigits, rfl⟩
  · refine ⟨none, fun more hmore ↦ ?_⟩
    rw [List.nil_append, readFraction?]
    rintro rest rfl
    exact (hmore '.' rfl).2 rfl
  · refine ⟨some digits, fun more hmore ↦ ?_⟩
    have hspan := span_isDigit hdigits.2 fun c hc ↦ (hmore c hc).1
    obtain ⟨first, others, rfl⟩ := List.exists_cons_of_ne_nil hdigits.1
    simp only [List.cons_append, readFraction?, hspan] at hspan ⊢

/-- The number after the letter of an exponent is read up to what does not go on with it. -/
theorem readExponent_of_areDigits {sign digits : List Char} (hdigits : AreDigits digits)
    (hsign : sign = [] ∨ sign = ['+'] ∨ sign = ['-']) :
    ∃ value, ∀ rest : List Char, EndsNumber rest →
      readExponent (sign ++ digits ++ rest) = .ok (value, rest) := by
  obtain ⟨hne, hall⟩ := hdigits
  have hspan (rest : List Char) (hrest : EndsNumber rest) :=
    span_isDigit hall fun c hc ↦ (hrest c hc).1
  obtain ⟨first, others, rfl⟩ := List.exists_cons_of_ne_nil hne
  have hfirst : first.isDigit := hall first List.mem_cons_self
  rcases hsign with rfl | rfl | rfl
  · refine ⟨digitsValue (first :: others), fun rest hrest ↦ ?_⟩
    have hplus : ∀ tail, first :: (others ++ rest) ≠ '+' :: tail := by
      rintro tail ⟨⟩
      exact absurd hfirst (by decide)
    have hminus : ∀ tail, first :: (others ++ rest) ≠ '-' :: tail := by
      rintro tail ⟨⟩
      exact absurd hfirst (by decide)
    have hdigits := hspan rest hrest
    simp only [List.nil_append, List.cons_append, readExponent] at hdigits ⊢
    simp only [hdigits]
    rfl
  · refine ⟨digitsValue (first :: others), fun rest hrest ↦ ?_⟩
    have hdigits := hspan rest hrest
    simp only [List.nil_append, List.cons_append, readExponent] at hdigits ⊢
    simp only [hdigits]
    rfl
  · refine ⟨-digitsValue (first :: others), fun rest hrest ↦ ?_⟩
    have hdigits := hspan rest hrest
    simp only [List.nil_append, List.cons_append, readExponent] at hdigits ⊢
    simp only [hdigits]
    rfl

/-- An exponent is read up to what does not go on with it. -/
theorem readExponent?_of_isExponent {exponent : List Char} (h : IsExponent exponent) :
    ∃ value, ∀ rest : List Char, EndsNumber rest →
      readExponent? (exponent ++ rest) = .ok (value, rest) := by
  rcases h with rfl | ⟨e, sign, digits, he, hsign, hdigits, rfl⟩
  · exact ⟨none, fun rest hrest ↦ readExponent?_of_ends hrest⟩
  · obtain ⟨value, hvalue⟩ := readExponent_of_areDigits hdigits hsign
    refine ⟨some value, fun rest hrest ↦ ?_⟩
    rcases he with rfl | rfl
    all_goals
      simp only [List.cons_append, readExponent?, hvalue rest hrest, bind, Except.bind]
      rfl

theorem head?_exponent {exponent rest : List Char} (h : IsExponent exponent)
    (hrest : EndsNumber rest) :
    ∀ c ∈ (exponent ++ rest).head?, c.isDigit = false ∧ c ≠ '.' := by
  rcases h with rfl | ⟨e, sign, digits, rfl | rfl, -, -, rfl⟩
  · exact fun c hc ↦ ⟨(hrest c hc).1, (hrest c hc).2.1⟩
  all_goals
    rintro c ⟨⟩
    decide

theorem head?_fraction {fraction more : List Char} (h : IsFraction fraction)
    (hmore : ∀ c ∈ more.head?, c.isDigit = false) :
    ∀ c ∈ (fraction ++ more).head?, c.isDigit = false := by
  rcases h with rfl | ⟨digits, -, rfl⟩
  · exact hmore
  · rintro c ⟨⟩
    decide

/-- The text of a number is read as some number. -/
theorem IsNumberText.isNumber {text : List Char} (h : IsNumberText text) :
    ∃ number, IsNumber text number := by
  obtain ⟨negative, whole, fraction, exponent, hwhole, hfraction, hexponent, rfl⟩ := h
  obtain ⟨valueFraction, hreadFraction⟩ := readFraction?_of_isFraction hfraction
  obtain ⟨valueExponent, hreadExponent⟩ := readExponent?_of_isExponent hexponent
  refine ⟨⟨negative, whole, valueFraction, valueExponent⟩, ?_, fun {rest} hrest ↦ ?_⟩
  · obtain ⟨c, tail, hhead, hc⟩ := hwhole.head negative
    refine ⟨c, tail ++ (fraction ++ exponent), ?_, hc⟩
    rw [← List.append_assoc, hhead]
    rfl
  · have hafter := head?_exponent hexponent hrest
    have hmore := head?_fraction hfraction fun c hc ↦ (hafter c hc).1
    have hread := readNumber_parts negative hwhole hmore (hreadFraction _ hafter)
      (hreadExponent rest hrest)
    simpa using hread

end Errand.Json

/-! ### The digits of a number -/

namespace Errand.Number

theorem powerFraction_pos {base : Nat} (hbase : 0 < base) (exponent : Int) :
    0 < (powerFraction base exponent).1 ∧ 0 < (powerFraction base exponent).2 :=
  ⟨Nat.pow_pos hbase, Nat.pow_pos hbase⟩

/-- Zero does not round to a number that is not zero. -/
theorem interval_low_pos (format : Format) {x : Binary} (hx : x.mantissa ≠ 0) :
    0 < (interval format x).1 := by
  have hscale := (powerFraction_pos (show 0 < 2 by decide) (x.exponent - 2)).1
  refine Nat.mul_pos ?_ hscale
  split <;> omega

/-- A decimal that reads back as a number that is not zero has other digits than zeros. -/
theorem digits_decimalOfLength? {format : Format} {x : Binary} {first : Int} {count : Nat}
    {d : Decimal} (hx : x.mantissa ≠ 0) (h : decimalOfLength? format x first count = some d) :
    d.digits ≠ 0 := by
  have hpower := (powerFraction_pos (show 0 < 10 by decide) (first - count + 1)).2
  have hlow := Nat.mul_pos (interval_low_pos format hx) hpower
  simp only [decimalOfLength?] at h
  generalize x.fraction.1 * (powerFraction 10 (first - count + 1)).2 /
    (x.fraction.2 * (powerFraction 10 (first - count + 1)).1) = below at h
  by_cases hbelow : below = 0
  · subst hbelow
    simp only [Nat.zero_mul, Nat.le_zero, hlow.ne', Nat.not_lt_zero, decide_false, Bool.false_and,
      ite_self] at h
    split at h
    · cases h
    · next hfalse _ => cases hfalse
    · cases h
      exact Nat.succ_ne_zero _
    · next hfalse _ => cases hfalse
  · split at h
    · cases h
    · cases h
      exact hbelow
    · cases h
      exact Nat.succ_ne_zero _
    · split at h
      · cases h
        exact hbelow
      · split at h <;> cases h
        · exact Nat.succ_ne_zero _
        · exact fun hsum ↦ hbelow (Nat.eq_zero_of_add_eq_zero hsum).1

/-- Digits that are dropped leave others, unless there is no power of ten. -/
theorem digits_dropZeros {d : Decimal} (fuel : Nat) (hd : d.digits ≠ 0 ∨ d.exponent = 0) :
    (d.dropZeros fuel).digits ≠ 0 ∨ (d.dropZeros fuel).exponent = 0 := by
  induction fuel generalizing d with
  | zero => exact hd
  | succ fuel ih =>
    rw [Decimal.dropZeros]
    split
    · next hzeros => exact ih (.inl (by dsimp only; omega))
    · exact hd

/-- The shortest digits of a number that is not zero are not all zeros, unless there is no power of
ten. -/
theorem digits_shortest (format : Format) {x : Binary} (hx : x.mantissa ≠ 0) :
    (shortest format x).digits ≠ 0 ∨ (shortest format x).exponent = 0 := by
  simp only [shortest]
  cases hfound : (List.range 17).findSome? fun n ↦
      decimalOfLength? format x (tenExponent x.fraction.1 x.fraction.2) (n + 1) with
  | none => exact .inr rfl
  | some d =>
    obtain ⟨n, -, hd⟩ := List.exists_of_findSome?_eq_some hfound
    exact .inl (digits_decimalOfLength? hx hd)

end Errand.Number

/-! ### Writing -/

namespace Errand.Json

open Errand.Number (Decimal positional scientific shortest digits_dropZeros digits_shortest)

/-- Zeros may be written after digits that are not only a zero. -/
theorem IsWholeDigits.append_zeros {digits : List Char} (h : IsWholeDigits digits) {count : Nat}
    (hcount : digits ≠ ['0'] ∨ count = 0) :
    IsWholeDigits (digits ++ List.replicate count '0') := by
  obtain ⟨hne, hall, hzero⟩ := h
  refine ⟨by simp [hne], ?_, fun c rest htext ↦ ?_⟩
  · intro c hc
    rcases List.mem_append.mp hc with hc | hc
    · exact hall c hc
    · rw [List.eq_of_mem_replicate hc]
      decide
  · obtain ⟨first, others, rfl⟩ := List.exists_cons_of_ne_nil hne
    obtain ⟨rfl, hothers⟩ := List.cons.inj htext
    cases others with
    | nil =>
      rcases hcount with hcount | rfl
      · exact hcount rfl
      · cases hothers
    | cons d others => exact hzero d others rfl

/-- The first of several digits are those of a whole number too. -/
theorem IsWholeDigits.take {digits : List Char} (h : IsWholeDigits digits) {count : Nat}
    (hcount : 0 < count) : IsWholeDigits (digits.take count) := by
  obtain ⟨hne, hall, hzero⟩ := h
  refine ⟨by simp [hne]; omega, fun c hc ↦ hall c (List.mem_of_mem_take hc), fun c rest htext ↦ ?_⟩
  have hdigits := List.take_append_drop count digits
  rw [htext] at hdigits
  exact hzero c _ hdigits.symm

theorem isNumberText_positional {digits : List Char} {exponent : Int} (negative : Bool)
    (hdigits : IsWholeDigits digits) (hzero : digits ≠ ['0'] ∨ exponent = 0) :
    IsNumberText (sign negative ++ positional .json digits exponent) := by
  rw [positional]
  split
  · next hexponent =>
    have hcount : digits ≠ ['0'] ∨ exponent.toNat = 0 := hzero.imp_right (congrArg Int.toNat)
    have hwhole := hdigits.append_zeros hcount
    exact ⟨negative, _, ['.', '0'], [], hwhole, .inr ⟨['0'], by simp [AreDigits], rfl⟩, .inl rfl,
      by simp [Errand.Number.Layout.json]⟩
  · next hexponent =>
    have hplaces : 0 < (-exponent).toNat := by omega
    dsimp only
    split
    · next hinside =>
      have hwhole := hdigits.take (show 0 < digits.length - (-exponent).toNat by omega)
      have hfraction : AreDigits (digits.drop (digits.length - (-exponent).toNat)) :=
        ⟨by simp; omega, fun c hc ↦ hdigits.2.1 c (List.mem_of_mem_drop hc)⟩
      exact ⟨negative, _, _, [], hwhole, .inr ⟨_, hfraction, rfl⟩, .inl rfl, by simp⟩
    · have hfraction :
          AreDigits (List.replicate ((-exponent).toNat - digits.length) '0' ++ digits) := by
        refine ⟨by simp [hdigits.1], fun c hc ↦ ?_⟩
        rcases List.mem_append.mp hc with hc | hc
        · rw [List.eq_of_mem_replicate hc]
          decide
        · exact hdigits.2.1 c hc
      have hwhole : IsWholeDigits ['0'] := ⟨by simp, by simp, by simp⟩
      exact ⟨negative, _, _, [], hwhole, .inr ⟨_, hfraction, rfl⟩, .inl rfl, by simp⟩

theorem isNumberText_scientific {digits : List Char} (negative : Bool) (first : Int)
    (hdigits : IsWholeDigits digits) :
    IsNumberText (sign negative ++ scientific digits first) := by
  obtain ⟨hne, hall, -⟩ := hdigits
  have hexponent : IsExponent
      ('e' :: (if first < 0 then '-' else '+') :: (Nat.repr first.natAbs).toList) := by
    refine .inr ⟨'e', [if first < 0 then '-' else '+'], (Nat.repr first.natAbs).toList, .inl rfl,
      ?_, ?_, rfl⟩
    · split <;> simp
    · rw [Nat.toList_repr]
      exact ⟨Nat.toDigits_ne_nil, isDigit_of_mem_toDigits⟩
  obtain ⟨d, rest, rfl⟩ := List.exists_cons_of_ne_nil hne
  have hwhole : IsWholeDigits [d] := ⟨by simp, by simpa using hall d, by simp⟩
  cases rest with
  | nil => exact ⟨negative, [d], [], _, hwhole, .inl rfl, hexponent, rfl⟩
  | cons next rest =>
    have hfraction : AreDigits (next :: rest) :=
      ⟨by simp, fun c hc ↦ hall c (List.mem_cons_of_mem d hc)⟩
    exact ⟨negative, [d], _, _, hwhole, .inr ⟨_, hfraction, rfl⟩, hexponent, by simp [scientific]⟩

/-- The writer writes the text of a number. -/
theorem isNumberText_writeNumber (n : Number) : IsNumberText (writeNumber n) := by
  cases n with
  | int n =>
    rw [writeNumber_int_eq]
    exact ⟨n < 0, _, [], [], isWholeDigits_toDigits n.natAbs, .inl rfl, .inl rfl, by simp⟩
  | real x =>
    rw [writeNumber, Errand.Number.Layout.render, String.toList_ofList]
    set decimal : Decimal := if x.mantissa = 0 then ⟨0, 0⟩ else (shortest .double x).dropZeros 20
    have hdecimal : decimal.digits ≠ 0 ∨ decimal.exponent = 0 := by
      by_cases hx : x.mantissa = 0
      · simp [decimal, hx]
      · simpa [decimal, hx] using digits_dropZeros 20 (digits_shortest .double hx)
    have hdigits := isWholeDigits_toDigits decimal.digits
    rw [Nat.toList_repr]
    have hzero : Nat.toDigits 10 decimal.digits ≠ ['0'] ∨ decimal.exponent = 0 := by
      refine hdecimal.imp_left fun hne htext ↦ hne ?_
      rw [← Nat.ofDigitChars_ten_toDigits (n := decimal.digits), htext]
      rfl
    change IsNumberText (sign x.negative ++ _)
    split
    · exact isNumberText_positional x.negative hdigits hzero
    · exact isNumberText_scientific x.negative _ hdigits

end Errand.Json
