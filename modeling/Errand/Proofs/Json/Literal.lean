import Mathlib
import Errand.Json.Reader
import Errand.Json.Writer

/-!
# Strings and whole numbers in JSON text

`SpellsChars text chars` says that a text between quotes spells these characters, plainly or by
escapes. Whoever reads such a text finds the characters, whoever skips it finds the end of it, and
`SpellsChars.flatMap_escapeChar` says that the writer spells what it is given. Numbers are treated
for whole numbers only: `readNumber_whole` reads a sign and digits, if the text after them does not
go on with the number. What the writer makes of a whole number is such a text
(`writeNumber_int_eq`), and it has the value that was written (`value_ofInt`).
-/

set_option autoImplicit false

namespace Errand.Json

/-! ### Strings -/

/-- The characters that a text between quotes stands for. -/
inductive SpellsChars : List Char → List Char → Prop
  /-- Nothing is spelled by nothing. -/
  | nil : SpellsChars [] []
  /-- A character that stands for itself. -/
  | plain {c : Char} {text chars : List Char} (hquote : c ≠ '"') (hescape : c ≠ '\\')
      (hcontrol : ¬ c.toNat < 0x20) (hrest : SpellsChars text chars) :
      SpellsChars (c :: text) (c :: chars)
  /-- An escape of one letter. -/
  | letter {e c : Char} {text chars : List Char} (he : simpleEscape? e = some c)
      (hrest : SpellsChars text chars) : SpellsChars ('\\' :: e :: text) (c :: chars)
  /-- An escape of four digits that is not half of a pair. -/
  | digits {a b c d : Char} {n : Nat} {text chars : List Char}
      (hhex : ∀ rest, readHex (a :: b :: c :: d :: rest) = .ok (n, rest))
      (hn : n < 0xD800 ∨ 0xDFFF < n) (hrest : SpellsChars text chars) :
      SpellsChars ('\\' :: 'u' :: a :: b :: c :: d :: text) (Char.ofNat n :: chars)
  /-- Two escapes of four digits that are the halves of a pair. -/
  | pair {a b c d e f g h : Char} {high low : Nat} {text chars : List Char}
      (hhigh : ∀ rest, readHex (a :: b :: c :: d :: rest) = .ok (high, rest))
      (hlow : ∀ rest, readHex (e :: f :: g :: h :: rest) = .ok (low, rest))
      (hhigh' : 0xD800 ≤ high ∧ high ≤ 0xDBFF) (hlow' : 0xDC00 ≤ low ∧ low ≤ 0xDFFF)
      (hrest : SpellsChars text chars) :
      SpellsChars
        ('\\' :: 'u' :: a :: b :: c :: d :: '\\' :: 'u' :: e :: f :: g :: h :: text)
        (Char.ofNat (0x10000 + (high - 0xD800) * 0x400 + (low - 0xDC00)) :: chars)

theorem readUnicode_of_readHex {n : Nat} {text rest : List Char}
    (hhex : readHex text = .ok (n, rest)) (hn : n < 0xD800 ∨ 0xDFFF < n) :
    readUnicode text = .ok (Char.ofNat n, rest) := by
  have hlow : ¬ (0xDC00 ≤ n ∧ n ≤ 0xDFFF) := by omega
  have hhigh : ¬ (0xD800 ≤ n ∧ n ≤ 0xDBFF) := by omega
  simp only [readUnicode, hhex, bind, Except.bind, hlow, hhigh, if_false]

theorem readUnicode_of_pair {high low : Nat} {text between rest : List Char}
    (hhigh : readHex text = .ok (high, '\\' :: 'u' :: between))
    (hlow : readHex between = .ok (low, rest)) (hhigh' : 0xD800 ≤ high ∧ high ≤ 0xDBFF)
    (hlow' : 0xDC00 ≤ low ∧ low ≤ 0xDFFF) :
    readUnicode text =
      .ok (Char.ofNat (0x10000 + (high - 0xD800) * 0x400 + (low - 0xDC00)), rest) := by
  have hfirst : ¬ (0xDC00 ≤ high ∧ high ≤ 0xDFFF) := by omega
  simp only [readUnicode, hhigh, bind, Except.bind, hfirst, hhigh', if_false, and_self, if_true,
    readLowHalf, hlow, hlow']

theorem decodeString_letter {e c : Char} (he : simpleEscape? e = some c) (fuel : Nat)
    (text : List Char) :
    decodeString (fuel + 1) ('\\' :: e :: text) = (decodeString fuel text).map (c :: ·) := by
  have hu : e ≠ 'u' := by
    rintro rfl
    cases he
  simp only [decodeString, he]
  rfl

theorem skipString_letter {e c : Char} (he : simpleEscape? e = some c) (fuel : Nat)
    (text : List Char) : skipString (fuel + 1) ('\\' :: e :: text) = skipString fuel text := by
  have hu : e ≠ 'u' := by
    rintro rfl
    cases he
  rw [skipString, if_neg (by decide), if_pos rfl, he]
  exact hu

namespace SpellsChars

/-- Reading a string finds the characters that its text spells. -/
theorem decodeString_eq {text chars : List Char} (h : SpellsChars text chars) (rest : List Char)
    {fuel : Nat} (hfuel : text.length < fuel) :
    decodeString fuel (text ++ '"' :: rest) = .ok chars := by
  induction h generalizing fuel with
  | nil =>
    obtain ⟨fuel, rfl⟩ := Nat.exists_eq_add_one.mpr hfuel
    simp [decodeString]
  | plain hquote hescape hcontrol _ ih =>
    obtain ⟨fuel, rfl⟩ := Nat.exists_eq_add_one.mpr (Nat.zero_lt_of_lt hfuel)
    have hread := @ih fuel (by simpa using hfuel)
    simp only [List.cons_append, decodeString, hquote, hescape, hcontrol, if_false, hread]
    rfl
  | letter he _ ih =>
    obtain ⟨fuel, rfl⟩ := Nat.exists_eq_add_one.mpr (Nat.zero_lt_of_lt hfuel)
    have hread := @ih fuel (by simp at hfuel; omega)
    simp only [List.cons_append, decodeString_letter he, hread]
    rfl
  | digits hhex hn _ ih =>
    obtain ⟨fuel, rfl⟩ := Nat.exists_eq_add_one.mpr (Nat.zero_lt_of_lt hfuel)
    have hread := @ih fuel (by simp at hfuel; omega)
    simp [decodeString, readUnicode_of_readHex (hhex _) hn, bind, Except.bind, hread]
    rfl
  | pair hhigh hlow hhigh' hlow' _ ih =>
    obtain ⟨fuel, rfl⟩ := Nat.exists_eq_add_one.mpr (Nat.zero_lt_of_lt hfuel)
    have hread := @ih fuel (by simp at hfuel; omega)
    simp [decodeString, readUnicode_of_pair (hhigh _) (hlow _) hhigh' hlow', bind, Except.bind,
      hread]
    rfl

/-- Skipping a string finds what follows its closing quote. -/
theorem skipString_eq {text chars : List Char} (h : SpellsChars text chars) (rest : List Char)
    {fuel : Nat} (hfuel : text.length < fuel) :
    skipString fuel (text ++ '"' :: rest) = .ok rest := by
  induction h generalizing fuel with
  | nil =>
    obtain ⟨fuel, rfl⟩ := Nat.exists_eq_add_one.mpr hfuel
    simp [skipString]
  | plain hquote hescape hcontrol _ ih =>
    obtain ⟨fuel, rfl⟩ := Nat.exists_eq_add_one.mpr (Nat.zero_lt_of_lt hfuel)
    have hskip := @ih fuel (by simpa using hfuel)
    simp only [List.cons_append, skipString, hquote, hescape, hcontrol, if_false, hskip]
  | letter he _ ih =>
    obtain ⟨fuel, rfl⟩ := Nat.exists_eq_add_one.mpr (Nat.zero_lt_of_lt hfuel)
    have hskip := @ih fuel (by simp at hfuel; omega)
    rw [List.cons_append, List.cons_append, skipString_letter he, hskip]
  | digits hhex hn _ ih =>
    obtain ⟨fuel, rfl⟩ := Nat.exists_eq_add_one.mpr (Nat.zero_lt_of_lt hfuel)
    have hskip := @ih fuel (by simp at hfuel; omega)
    simp [skipString, hhex, bind, Except.bind, hskip]
  | pair hhigh hlow _ _ _ ih =>
    obtain ⟨fuel, rfl⟩ := Nat.exists_eq_add_one.mpr (Nat.zero_lt_of_lt hfuel)
    obtain ⟨fuel, rfl⟩ := Nat.exists_eq_add_one.mpr (show 0 < fuel by simp at hfuel; omega)
    have hskip := @ih fuel (by simp at hfuel; omega)
    simp [skipString, hhigh, hlow, bind, Except.bind, hskip]

/-- What a reader makes of a string. -/
theorem readLiteral_eq {text : List Char} {s : String} (h : SpellsChars text s.toList)
    (rest : List Char) {fuel : Nat} (hfuel : text.length < fuel) :
    readLiteral fuel (text ++ '"' :: rest) = ({ decoded := .ok s }, some rest) := by
  simp [readLiteral, h.decodeString_eq rest hfuel, h.skipString_eq rest hfuel, Except.map]

end SpellsChars

theorem hexValue?_hexDigit : ∀ n < 16, hexValue? (hexDigit n) = some n := by
  decide

/-- The digits that the writer escapes a control character with are read back. -/
theorem readHex_control {n : Nat} (hn : n < 0x20) (rest : List Char) :
    readHex ('0' :: '0' :: hexDigit (n / 16) :: hexDigit (n % 16) :: rest) = .ok (n, rest) := by
  have hzero : hexValue? '0' = some 0 := rfl
  have hhigh := hexValue?_hexDigit (n / 16) (by omega)
  have hlow := hexValue?_hexDigit (n % 16) (by omega)
  simp only [readHex, hzero, hhigh, hlow, Except.ok.injEq, Prod.mk.injEq, and_true]
  omega

/-- The writer spells a character. -/
theorem SpellsChars.escapeChar {text chars : List Char} (c : Char) (h : SpellsChars text chars) :
    SpellsChars (Json.escapeChar c ++ text) (c :: chars) := by
  unfold Json.escapeChar
  split
  · exact .letter rfl h
  · exact .letter rfl h
  · exact .letter rfl h
  · exact .letter rfl h
  · exact .letter rfl h
  · exact .letter rfl h
  · exact .letter rfl h
  · next hquote hescape _ _ _ _ _ =>
    by_cases hcontrol : c.toNat < 0x20
    · have hdigits := SpellsChars.digits (readHex_control hcontrol) (by omega) h
      rw [Char.ofNat_toNat] at hdigits
      rwa [if_pos hcontrol]
    · rw [if_neg hcontrol]
      exact .plain hquote hescape hcontrol h

/-- The writer spells the characters that it is given. -/
theorem SpellsChars.flatMap_escapeChar (chars : List Char) :
    SpellsChars (chars.flatMap Json.escapeChar) chars := by
  induction chars with
  | nil => exact .nil
  | cons c chars ih => exact ih.escapeChar c

/-! ### Whole numbers -/

/-- Whether a text does not go on with a number. -/
def EndsNumber (rest : List Char) : Prop :=
  ∀ c ∈ rest.head?, c.isDigit = false ∧ c ≠ '.' ∧ c ≠ 'e' ∧ c ≠ 'E'

theorem readFraction?_of_ends {rest : List Char} (hrest : EndsNumber rest) :
    readFraction? rest = .ok (none, rest) := by
  unfold readFraction?
  split
  · exact absurd rfl (hrest '.' rfl).2.1
  · rfl

theorem readExponent?_of_ends {rest : List Char} (hrest : EndsNumber rest) :
    readExponent? rest = .ok (none, rest) := by
  unfold readExponent?
  split
  · exact absurd rfl (hrest 'e' rfl).2.2.1
  · exact absurd rfl (hrest 'E' rfl).2.2.2
  · rfl

theorem span_isDigit {digits rest : List Char} (hdigits : ∀ c ∈ digits, c.isDigit)
    (hrest : ∀ c ∈ rest.head?, c.isDigit = false) :
    (digits ++ rest).span Char.isDigit = (digits, rest) := by
  have hnone : rest.takeWhile Char.isDigit = [] ∧ rest.dropWhile Char.isDigit = rest := by
    cases rest with
    | nil => simp
    | cons c rest => simp [hrest c rfl]
  rw [List.span_eq_takeWhile_dropWhile, List.takeWhile_append_of_pos hdigits,
    List.dropWhile_append_of_pos hdigits, hnone.1, hnone.2, List.append_nil]

theorem isDigit_of_mem_toDigits {n : Nat} : ∀ c ∈ Nat.toDigits 10 n, c.isDigit :=
  fun _ hc ↦ Nat.isDigit_of_mem_toDigits (by decide) (by decide) hc

/-- No number is written with a zero in front of other digits. -/
theorem toDigits_ne_zero_cons (n : Nat) (c : Char) (digits : List Char) :
    Nat.toDigits 10 n ≠ '0' :: c :: digits := by
  induction n using Nat.strongRecOn generalizing c digits with
  | ind n ih =>
    intro hzero
    by_cases hn : n < 10
    · rw [Nat.toDigits_of_lt_base hn] at hzero
      simp at hzero
    · rw [Nat.toDigits_of_base_le (by decide) (by omega)] at hzero
      have hne : Nat.toDigits 10 (n / 10) ≠ [] := Nat.toDigits_ne_nil
      rcases hfront : Nat.toDigits 10 (n / 10) with _ | ⟨first, _ | ⟨second, others⟩⟩
      · exact hne hfront
      · obtain rfl : first = '0' := by simpa [hfront] using congrArg List.head? hzero
        have hvalue : n / 10 = 0 := by
          rw [← Nat.ofDigitChars_ten_toDigits (n := n / 10), hfront]
          rfl
        omega
      · obtain rfl : first = '0' := by simpa [hfront] using congrArg List.head? hzero
        exact ih (n / 10) (by omega) second others hfront

theorem takeWhole_of_le {digits : List Char} {significand : Nat}
    (h : Nat.ofDigitChars 10 digits significand ≤ maxSignificand) :
    takeWhole significand digits = (Nat.ofDigitChars 10 digits significand, 0) := by
  induction digits generalizing significand with
  | nil => rfl
  | cons c digits ih =>
    rw [Nat.ofDigitChars_cons, Nat.mul_comm] at h ⊢
    have hnext : significand * 10 + (c.toNat - '0'.toNat) ≤ maxSignificand := by
      rw [Nat.ofDigitChars_eq_ofDigitChars_zero] at h
      have hpow : 0 < 10 ^ digits.length := Nat.pow_pos (by decide)
      exact Nat.le_trans (Nat.le_trans (Nat.le_mul_of_pos_left _ hpow) (Nat.le_add_right _ _)) h
    simp only [takeWhole, if_pos hnext, ih h]

/-- The digits of a whole number: at least one, and no needless zero in front. -/
def IsWholeDigits (digits : List Char) : Prop :=
  digits ≠ [] ∧ (∀ c ∈ digits, c.isDigit) ∧ ∀ c rest, digits ≠ '0' :: c :: rest

theorem isWholeDigits_toDigits (n : Nat) : IsWholeDigits (Nat.toDigits 10 n) :=
  ⟨Nat.toDigits_ne_nil, isDigit_of_mem_toDigits, toDigits_ne_zero_cons n⟩

/-- The sign of a number. -/
def sign (negative : Bool) : List Char :=
  if negative then ['-'] else []

/-- The parts of a whole number with these digits. -/
def NumberText.ofDigits (negative : Bool) (digits : List Char) : NumberText where
  negative := negative
  whole := digits
  fraction := none
  exponent := none

/-- A number is read from its sign, the digits of its whole part and what comes after them. -/
theorem readNumber_parts (negative : Bool) {whole more more' rest : List Char}
    {fraction : Option (List Char)} {exponent : Option Int} (hwhole : IsWholeDigits whole)
    (hmore : ∀ c ∈ more.head?, c.isDigit = false)
    (hfraction : readFraction? more = .ok (fraction, more'))
    (hexponent : readExponent? more' = .ok (exponent, rest)) :
    readNumber (sign negative ++ whole ++ more) =
      .ok ({ negative, whole, fraction, exponent }, rest) := by
  obtain ⟨hne, hall, hzero⟩ := hwhole
  have hspan := span_isDigit hall hmore
  have hminus : '-' ∉ whole := fun hmem ↦ absurd (hall '-' hmem) (by decide)
  obtain ⟨first, others, rfl⟩ := List.exists_cons_of_ne_nil hne
  cases negative with
  | true =>
    simp only [readNumber, sign, if_true, List.cons_append, List.nil_append] at hspan ⊢
    simp only [hspan, bind, Except.bind, hfraction, hexponent]
    rfl
  | false =>
    have hsign : ∀ tail, first :: (others ++ more) ≠ '-' :: tail := by
      rintro tail htail
      cases htail
      simp at hminus
    simp only [readNumber, sign, Bool.false_eq_true, if_false, List.cons_append,
      List.nil_append] at hspan ⊢
    simp only [hspan, bind, Except.bind, hfraction, hexponent]
    rfl

/-- A whole number is read from its sign and its digits. -/
theorem readNumber_whole (negative : Bool) {digits rest : List Char}
    (hdigits : IsWholeDigits digits) (hrest : EndsNumber rest) :
    readNumber (sign negative ++ digits ++ rest) = .ok (.ofDigits negative digits, rest) :=
  readNumber_parts negative hdigits (fun c hc ↦ (hrest c hc).1) (readFraction?_of_ends hrest)
    (readExponent?_of_ends hrest)

/-- The parts of a number as the writer writes it. -/
def NumberText.ofInt (n : Int) : NumberText :=
  .ofDigits (n < 0) (Nat.toDigits 10 n.natAbs)

theorem writeNumber_int_eq (n : Int) :
    writeNumber (.int n) = sign (n < 0) ++ Nat.toDigits 10 n.natAbs := by
  rw [writeNumber, Int.toString_eq_repr, Int.repr_eq_if]
  by_cases hn : n < 0
  · have habs : (-n).toNat = n.natAbs := by omega
    rw [if_neg (by omega), habs]
    simp [String.toList_append, sign, hn]
  · have habs : n.toNat = n.natAbs := by omega
    rw [if_pos (by omega), habs]
    simp [sign, hn]

/-- A whole number that fits has its value. -/
theorem NumberText.value_ofInt {n : Int} (hlow : -2 ^ 63 ≤ n) (hhigh : n < 2 ^ 64) :
    (NumberText.ofInt n).value = some (.int n) := by
  have hmax : Nat.ofDigitChars 10 (Nat.toDigits 10 n.natAbs) 0 ≤ maxSignificand := by
    have hbound : maxSignificand = 18446744073709551615 := rfl
    rw [Nat.ofDigitChars_ten_toDigits]
    omega
  have hwhole := takeWhole_of_le hmax
  rw [Nat.ofDigitChars_ten_toDigits] at hwhole
  by_cases hn : n < 0
  · have hfits : 0 < n.natAbs ∧ n.natAbs ≤ Nat.pow 2 63 := by
      have hbound : Nat.pow 2 63 = 9223372036854775808 := rfl
      constructor <;> omega
    have hvalue : (-(n.natAbs : Int)) = n := by omega
    simp only [value, ofInt, ofDigits, hwhole, hn, hfits, and_self, if_true, hvalue]
    rfl
  · have hvalue : (n.natAbs : Int) = n := by omega
    simp [value, ofInt, ofDigits, hwhole, hn, hvalue]

end Errand.Json
