import Errand.Proofs.Json.Reading
import Errand.Proofs.Text.Braces

/-!
# The grammar of JSON text

`IsText text kind strings` says that a text is JSON, whatever value it stands for. Numbers may have
a fraction and an exponent, and arrays and objects may stand inside one another as deep as they
like. The strings, names of fields among them, are listed as they are written between their quotes.
What spells a value is such a text (`Spells.exists_isText`).

Only a string can lead astray who counts braces without regard to strings. If no string holds a
closing brace, then the first group of braces in an object is the whole object
(`IsObjectText.eq_of_group`).
-/

set_option autoImplicit false

namespace Errand.Json

/-! ### Strings and numbers -/

/-- The texts that may stand between the quotes of a string. -/
inductive IsRaw : List Char → Prop
  | nil : IsRaw []
  /-- A character that stands for itself. -/
  | plain {c : Char} {text : List Char} (hquote : c ≠ '"') (hescape : c ≠ '\\')
      (hcontrol : ¬ c.toNat < 0x20) (hrest : IsRaw text) : IsRaw (c :: text)
  /-- An escape of one letter. -/
  | letter {e : Char} {text : List Char} (he : (simpleEscape? e).isSome) (hrest : IsRaw text) :
      IsRaw ('\\' :: e :: text)
  /-- An escape of four digits. -/
  | digits {a b c d : Char} {text : List Char} (hhex : ∀ x ∈ [a, b, c, d], (hexValue? x).isSome)
      (hrest : IsRaw text) : IsRaw ('\\' :: 'u' :: a :: b :: c :: d :: text)

/-- Characters that all stand for themselves may stand in a string. -/
theorem isRaw_of_plain {text : List Char}
    (h : text.all fun c ↦ c != '"' && c != '\\' && 0x20 ≤ c.toNat) : IsRaw text := by
  induction text with
  | nil => exact .nil
  | cons c text ih =>
    simp only [List.all_cons, Bool.and_eq_true, bne_iff_ne, decide_eq_true_eq] at h
    exact .plain h.1.1.1 h.1.1.2 (Nat.not_lt.mpr h.1.2) (ih h.2)

/-- Digits, one at least. -/
def AreDigits (text : List Char) : Prop :=
  text ≠ [] ∧ ∀ c ∈ text, c.isDigit

/-- The fraction of a number, or nothing. -/
def IsFraction (text : List Char) : Prop :=
  text = [] ∨ ∃ digits, AreDigits digits ∧ text = '.' :: digits

/-- The exponent of a number, or nothing. -/
def IsExponent (text : List Char) : Prop :=
  text = [] ∨ ∃ e sign digits, (e = 'e' ∨ e = 'E') ∧ (sign = [] ∨ sign = ['+'] ∨ sign = ['-']) ∧
    AreDigits digits ∧ text = e :: (sign ++ digits)

/-- The text of a number. -/
def IsNumberText (text : List Char) : Prop :=
  ∃ negative whole fraction exponent, IsWholeDigits whole ∧ IsFraction fraction ∧
    IsExponent exponent ∧ text = sign negative ++ (whole ++ (fraction ++ exponent))

theorem IsNumberText.notMem {text : List Char} (h : IsNumberText text) {c : Char}
    (hdigit : c.isDigit = false) (hmarks : c ∉ "-+.eE".toList) : c ∉ text := by
  have hnone : ∀ {digits : List Char}, (∀ d ∈ digits, d.isDigit) → c ∉ digits :=
    fun hdigits hmem ↦ by simp [hdigits c hmem] at hdigit
  obtain ⟨negative, whole, fraction, exponent, hwhole, hfraction, hexponent, rfl⟩ := h
  have hsign : c ∉ sign negative := by
    cases negative <;> simp_all [sign]
  have hfraction' : c ∉ fraction := by
    rcases hfraction with rfl | ⟨digits, hdigits, rfl⟩
    · exact List.not_mem_nil
    · simp_all [hnone hdigits.2]
  have hexponent' : c ∉ exponent := by
    rcases hexponent with rfl | ⟨e, sign, digits, rfl | rfl, rfl | rfl | rfl, hdigits, rfl⟩
    · exact List.not_mem_nil
    all_goals simp_all [hnone hdigits.2]
  simp [hsign, hnone hwhole.2.1, hfraction', hexponent']

/-! ### Values -/

/-- The texts of values, of the items of an array and of the fields of an object, with the texts of
the strings in them. -/
inductive IsText : List Char → Kind → List (List Char) → Prop
  /-- A word that stands for a value. -/
  | word {text : List Char} (hword : text ∈ ["null".toList, "true".toList, "false".toList]) :
      IsText text .value []
  | number {text : List Char} (hnumber : IsNumberText text) : IsText text .value []
  | str {raw : List Char} (hraw : IsRaw raw) : IsText ('"' :: raw ++ ['"']) .value [raw]
  | emptyArr {blank : List Char} (hblank : IsBlank blank) :
      IsText ('[' :: blank ++ [']']) .value []
  | arr {before text : List Char} {strings : List (List Char)} (hbefore : IsBlank before)
      (hitems : IsText text .items strings) :
      IsText ('[' :: before ++ text ++ [']']) .value strings
  | emptyObj {blank : List Char} (hblank : IsBlank blank) :
      IsText ('{' :: blank ++ ['}']) .value []
  | obj {before text : List Char} {strings : List (List Char)} (hbefore : IsBlank before)
      (hfields : IsText text .fields strings) :
      IsText ('{' :: before ++ text ++ ['}']) .value strings
  /-- The last item. -/
  | item {text after : List Char} {strings : List (List Char)} (hafter : IsBlank after)
      (hvalue : IsText text .value strings) : IsText (text ++ after) .items strings
  /-- An item and others after a comma. -/
  | itemsCons {text after before others : List Char} {strings strings' : List (List Char)}
      (hafter : IsBlank after) (hbefore : IsBlank before) (hvalue : IsText text .value strings)
      (hitems : IsText others .items strings') :
      IsText (text ++ after ++ ',' :: before ++ others) .items (strings ++ strings')
  /-- The last field. -/
  | field {key between before text after : List Char} {strings : List (List Char)}
      (hkey : IsRaw key) (hbetween : IsBlank between) (hbefore : IsBlank before)
      (hafter : IsBlank after) (hvalue : IsText text .value strings) :
      IsText ('"' :: key ++ '"' :: between ++ ':' :: before ++ text ++ after) .fields
        (key :: strings)
  /-- A field and others after a comma. -/
  | fieldsCons {key between before text after gap others : List Char}
      {strings strings' : List (List Char)} (hkey : IsRaw key) (hbetween : IsBlank between)
      (hbefore : IsBlank before) (hafter : IsBlank after) (hgap : IsBlank gap)
      (hvalue : IsText text .value strings) (hfields : IsText others .fields strings') :
      IsText
        ('"' :: key ++ '"' :: between ++ ':' :: before ++ text ++ after ++ ',' :: gap ++ others)
        .fields (key :: strings ++ strings')

/-- The text of an object, with the texts of the strings in it. -/
def IsObjectText (text : List Char) (strings : List (List Char)) : Prop :=
  IsText text .value strings ∧ text.head? = some '{'

/-! ### What is spelled -/

theorem isSome_of_readHex {a b c d : Char} {n : Nat} {rest : List Char}
    (h : readHex (a :: b :: c :: d :: rest) = .ok (n, rest)) :
    ∀ x ∈ [a, b, c, d], (hexValue? x).isSome := by
  rw [readHex] at h
  split at h
  · next ha hb hc hd => simp [ha, hb, hc, hd]
  · cases h

theorem SpellsChars.isRaw {text chars : List Char} (h : SpellsChars text chars) : IsRaw text := by
  induction h with
  | nil => exact .nil
  | plain hquote hescape hcontrol _ ih => exact .plain hquote hescape hcontrol ih
  | letter he _ ih => exact .letter (by rw [he]; rfl) ih
  | digits hhex _ _ ih => exact .digits (isSome_of_readHex (hhex [])) ih
  | pair hhigh hlow _ _ _ ih =>
    exact .digits (isSome_of_readHex (hhigh [])) (.digits (isSome_of_readHex (hlow [])) ih)

/-- The kind of a part of a value. -/
def Piece.kind : Piece → Kind
  | .value _ => .value
  | .items _ => .items
  | .fields _ => .fields

/-- What spells a part of a value is JSON text. -/
theorem Spells.exists_isText {text : List Char} {piece : Piece} (h : Spells text piece) :
    ∃ strings, IsText text piece.kind strings := by
  induction h with
  | null | yes | no => exact ⟨[], .word (by simp)⟩
  | @whole negative digits _ hdigits _ =>
    exact ⟨[], .number ⟨negative, digits, [], [], hdigits, .inl rfl, .inl rfl, by simp⟩⟩
  | str hs => exact ⟨_, .str hs.isRaw⟩
  | emptyArr hblank => exact ⟨[], .emptyArr hblank⟩
  | arr hbefore _ ih => exact ih.imp fun _ hitems ↦ .arr hbefore hitems
  | emptyObj hblank => exact ⟨[], .emptyObj hblank⟩
  | obj hbefore _ ih => exact ih.imp fun _ hfields ↦ .obj hbefore hfields
  | item hafter _ ih => exact ih.imp fun _ hvalue ↦ .item hafter hvalue
  | itemsCons hafter hbefore _ _ ihv ihitems =>
    obtain ⟨_, hvalue⟩ := ihv
    obtain ⟨_, hitems⟩ := ihitems
    exact ⟨_, .itemsCons hafter hbefore hvalue hitems⟩
  | field hkey hbetween hbefore hafter _ ih =>
    obtain ⟨_, hvalue⟩ := ih
    exact ⟨_, .field hkey.isRaw hbetween hbefore hafter hvalue⟩
  | fieldsCons hkey hbetween hbefore hafter hgap _ _ ihv ihfields =>
    obtain ⟨_, hvalue⟩ := ihv
    obtain ⟨_, hfields⟩ := ihfields
    exact ⟨_, .fieldsCons hkey.isRaw hbetween hbefore hafter hgap hvalue hfields⟩

/-! ### Braces -/

open Text

theorem IsBlank.notMem_close {blank : List Char} (h : IsBlank blank) : '}' ∉ blank :=
  fun hmem ↦ absurd (h '}' hmem) (by decide)

/-- A text whose strings hold no closing brace closes nothing that was opened before it. -/
theorem IsText.sustains {text : List Char} {kind : Kind} {strings : List (List Char)}
    (h : IsText text kind strings) (hstrings : ∀ raw ∈ strings, '}' ∉ raw) : Sustains text := by
  have hcomma : ∀ {before : List Char}, IsBlank before → Sustains (',' :: before) :=
    fun hbefore ↦ sustains_of_noClose (by simp [hbefore.notMem_close])
  have hname : ∀ {key between before : List Char}, '}' ∉ key → IsBlank between → IsBlank before →
      Sustains ('"' :: key ++ '"' :: between ++ ':' :: before) := fun hkey hbetween hbefore ↦
    sustains_of_noClose (by simp [hkey, hbetween.notMem_close, hbefore.notMem_close])
  induction h with
  | word hword =>
    refine sustains_of_noClose ?_
    rcases List.mem_cons.mp hword with rfl | hword
    · decide
    rcases List.mem_cons.mp hword with rfl | hword
    · decide
    · obtain rfl := List.mem_singleton.mp hword
      decide
  | number hnumber => exact sustains_of_noClose (hnumber.notMem (by decide) (by decide))
  | @str raw hraw => exact sustains_of_noClose (by simp [hstrings raw List.mem_cons_self])
  | emptyArr hblank => exact sustains_of_noClose (by simp [hblank.notMem_close])
  | @arr before _ _ hbefore _ ih =>
    have hopen : Sustains ('[' :: before) :=
      sustains_of_noClose (by simp [hbefore.notMem_close])
    exact (hopen.append (ih hstrings)).append (sustains_of_noClose (by decide))
  | emptyObj hblank => exact (sustains_of_noClose hblank.notMem_close).braced
  | obj hbefore _ ih =>
    have hinner := (sustains_of_noClose hbefore.notMem_close).append (ih hstrings)
    simpa using hinner.braced
  | item hafter _ ih => exact (ih hstrings).append (sustains_of_noClose hafter.notMem_close)
  | itemsCons hafter hbefore _ _ ihv ihitems =>
    rw [List.forall_mem_append] at hstrings
    have hfront := (ihv hstrings.1).append (sustains_of_noClose hafter.notMem_close)
    simpa using (hfront.append (hcomma hbefore)).append (ihitems hstrings.2)
  | field hkey hbetween hbefore hafter _ ih =>
    rw [List.forall_mem_cons] at hstrings
    have hfront := (hname hstrings.1 hbetween hbefore).append (ih hstrings.2)
    exact hfront.append (sustains_of_noClose hafter.notMem_close)
  | fieldsCons hkey hbetween hbefore hafter hgap _ _ ihv ihfields =>
    rw [List.cons_append, List.forall_mem_cons, List.forall_mem_append] at hstrings
    have hfront := (hname hstrings.1 hbetween hbefore).append (ihv hstrings.2.1)
    have hfield := hfront.append (sustains_of_noClose hafter.notMem_close)
    simpa using (hfield.append (hcomma hgap)).append (ihfields hstrings.2.2)

/-- An object is a text in braces. -/
theorem IsObjectText.exists_inner {text : List Char} {strings : List (List Char)}
    (h : IsObjectText text strings) : ∃ inner, text = '{' :: (inner ++ ['}']) ∧
      ((∀ raw ∈ strings, '}' ∉ raw) → Sustains inner) := by
  obtain ⟨hvalue, hhead⟩ := h
  cases hvalue with
  | emptyObj hblank => exact ⟨_, rfl, fun _ ↦ sustains_of_noClose hblank.notMem_close⟩
  | @obj before text _ hbefore hfields =>
    refine ⟨before ++ text, by simp, fun hstrings ↦ ?_⟩
    exact (sustains_of_noClose hbefore.notMem_close).append (hfields.sustains hstrings)
  | word hword =>
    simp only [List.mem_cons, List.not_mem_nil, or_false] at hword
    rcases hword with rfl | rfl | rfl <;> cases hhead
  | number hnumber =>
    exact absurd (List.mem_of_mem_head? hhead) (hnumber.notMem (by decide) (by decide))
  | str | emptyArr | arr => cases hhead

theorem IsObjectText.getLast? {text : List Char} {strings : List (List Char)}
    (h : IsObjectText text strings) : text.getLast? = some '}' := by
  obtain ⟨inner, rfl, -⟩ := h.exists_inner
  simp [List.getLast?_cons]

/-- A group of braces that an object begins with is the whole object, unless a string in it holds a
closing brace. -/
theorem IsObjectText.eq_of_group {text front back : List Char} {strings : List (List Char)}
    {limit : Nat} (h : IsObjectText text strings) (hstrings : ∀ raw ∈ strings, '}' ∉ raw)
    (hfront : IsGroup limit front) (htext : text = front ++ back) : back = [] := by
  obtain ⟨inner, hinner, hsustains⟩ := h.exists_inner
  rcases List.eq_nil_or_concat back with rfl | ⟨more, c, rfl⟩
  · rfl
  · rw [htext, List.concat_eq_append, ← List.append_assoc, ← List.cons_append] at hinner
    have hprefix : front <+: '{' :: inner :=
      ⟨more, (List.append_inj' hinner rfl).1⟩
    exact absurd hprefix (hfront.not_prefix_of_sustains (hsustains hstrings))

end Errand.Json
