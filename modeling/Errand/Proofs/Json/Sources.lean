import Errand.Proofs.Json.Literal

/-!
# What a reader makes of JSON text

`Reads text part` says of a JSON text what source a reader makes of it. Blanks may stand between the
tokens as anybody likes them. Numbers and strings are any that their readers come to the end of:
`IsNumber` says so of a number and `IsLiteral` of a string. `Reads.read` says that the reader makes
of such a text what it is to be read as, and stops right after it.
-/

set_option autoImplicit false

namespace Errand.Json

/-- A part of a source that a text may be read as. -/
inductive Source.Part
  /-- A value. -/
  | value (source : Source)
  /-- The items of an array, at least one. -/
  | items (items : List Source)
  /-- The fields of an object, at least one. -/
  | fields (fields : List (Literal × Source))

/-- A text of blanks. -/
def IsBlank (text : List Char) : Prop :=
  ∀ c ∈ text, isSpace c

/-- Whether a character can begin a number. -/
def BeginsNumber (c : Char) : Prop :=
  c = '-' ∨ c.isDigit

theorem BeginsNumber.ne {c d : Char} (hc : BeginsNumber c) (hd : d ≠ '-' ∧ d.isDigit = false) :
    c ≠ d := by
  rintro rfl
  rcases hc with rfl | hdigit
  · exact hd.1 rfl
  · simp [hd.2] at hdigit

theorem BeginsNumber.isSpace_eq_false {c : Char} (hc : BeginsNumber c) : isSpace c = false := by
  have hblanks : c ≠ ' ' ∧ c ≠ '\n' ∧ c ≠ '\t' ∧ c ≠ '\r' :=
    ⟨hc.ne (by decide), hc.ne (by decide), hc.ne (by decide), hc.ne (by decide)⟩
  simp [isSpace, hblanks]

/-- Whether a text is read as a number, if what comes after it does not go on with the number. -/
structure IsNumber (text : List Char) (number : NumberText) : Prop where
  begins : ∃ c tail, text = c :: tail ∧ BeginsNumber c
  read : ∀ {rest : List Char}, EndsNumber rest → readNumber (text ++ rest) = .ok (number, rest)

/-- Whether a text before a quote is read as a string. -/
def IsLiteral (text : List Char) (literal : Literal) : Prop :=
  ∀ (rest : List Char) {fuel : Nat}, text.length < fuel →
    readLiteral fuel (text ++ '"' :: rest) = (literal, some rest)

/-- The texts that are read as a part of a source. -/
inductive Reads : List Char → Source.Part → Prop
  | null : Reads ['n', 'u', 'l', 'l'] (.value .null)
  | yes : Reads ['t', 'r', 'u', 'e'] (.value (.bool true))
  | no : Reads ['f', 'a', 'l', 's', 'e'] (.value (.bool false))
  | number {text : List Char} {number : NumberText} (h : IsNumber text number) :
      Reads text (.value (.num number.value))
  | str {text : List Char} {literal : Literal} (h : IsLiteral text literal) :
      Reads ('"' :: text ++ ['"']) (.value (.str literal))
  | emptyArr {blank : List Char} (hblank : IsBlank blank) :
      Reads ('[' :: blank ++ [']']) (.value (.arr [] none))
  | arr {before text : List Char} {items : List Source} (hbefore : IsBlank before)
      (hitems : Reads text (.items items)) :
      Reads ('[' :: before ++ text ++ [']']) (.value (.arr items none))
  | emptyObj {blank : List Char} (hblank : IsBlank blank) :
      Reads ('{' :: blank ++ ['}']) (.value (.obj [] none))
  | obj {before text : List Char} {fields : List (Literal × Source)} (hbefore : IsBlank before)
      (hfields : Reads text (.fields fields)) :
      Reads ('{' :: before ++ text ++ ['}']) (.value (.obj fields none))
  /-- The last item. -/
  | item {text after : List Char} {source : Source} (hafter : IsBlank after)
      (hsource : Reads text (.value source)) : Reads (text ++ after) (.items [source])
  /-- An item and others after a comma. -/
  | itemsCons {text after before others : List Char} {source : Source} {items : List Source}
      (hafter : IsBlank after) (hbefore : IsBlank before) (hsource : Reads text (.value source))
      (hitems : Reads others (.items items)) :
      Reads (text ++ after ++ ',' :: before ++ others) (.items (source :: items))
  /-- The last field. -/
  | field {key between before text after : List Char} {literal : Literal} {source : Source}
      (hkey : IsLiteral key literal) (hbetween : IsBlank between) (hbefore : IsBlank before)
      (hafter : IsBlank after) (hsource : Reads text (.value source)) :
      Reads ('"' :: key ++ '"' :: between ++ ':' :: before ++ text ++ after)
        (.fields [(literal, source)])
  /-- A field and others after a comma. -/
  | fieldsCons {key between before text after gap others : List Char} {literal : Literal}
      {source : Source} {fields : List (Literal × Source)} (hkey : IsLiteral key literal)
      (hbetween : IsBlank between) (hbefore : IsBlank before) (hafter : IsBlank after)
      (hgap : IsBlank gap) (hsource : Reads text (.value source))
      (hfields : Reads others (.fields fields)) :
      Reads
        ('"' :: key ++ '"' :: between ++ ':' :: before ++ text ++ after ++ ',' :: gap ++ others)
        (.fields ((literal, source) :: fields))

/-! ### Blanks -/

theorem isBlank_nil : IsBlank [] := by
  intro c hc
  cases hc

theorem skipSpace_blank {blank : List Char} (hblank : IsBlank blank) (text : List Char) :
    skipSpace (blank ++ text) = skipSpace text :=
  List.dropWhile_append_of_pos hblank

theorem skipSpace_cons {c : Char} (hc : isSpace c = false) (text : List Char) :
    skipSpace (c :: text) = c :: text := by
  simp [skipSpace, hc]

theorem skipSpace_comma (text : List Char) : skipSpace (',' :: text) = ',' :: text := rfl

theorem skipSpace_colon (text : List Char) : skipSpace (':' :: text) = ':' :: text := rfl

theorem skipSpace_bracket (text : List Char) : skipSpace (']' :: text) = ']' :: text := rfl

theorem skipSpace_brace (text : List Char) : skipSpace ('}' :: text) = '}' :: text := rfl

/-- Blanks in front of a value do not matter. -/
theorem readValue_blank {blank : List Char} (hblank : IsBlank blank) (fuel : Nat)
    (text : List Char) : readValue fuel (blank ++ text) = readValue fuel text := by
  cases fuel with
  | zero => rfl
  | succ fuel => simp only [readValue, skipSpace_blank hblank]

/-- Blanks and marks end a number. -/
theorem endsNumber_blank {blank : List Char} (hblank : IsBlank blank) {c : Char} {rest : List Char}
    (hc : EndsNumber (c :: rest)) : EndsNumber (blank ++ c :: rest) := by
  cases blank with
  | nil => exact hc
  | cons b blank =>
    intro d hd
    obtain rfl : b = d := by simpa using hd
    have hspace := hblank b (by simp)
    simp only [isSpace, Bool.or_eq_true, decide_eq_true_eq] at hspace
    rcases hspace with ((rfl | rfl) | rfl) | rfl <;> decide

theorem endsNumber_comma (rest : List Char) : EndsNumber (',' :: rest) := by
  rintro c ⟨⟩
  decide

theorem endsNumber_bracket (rest : List Char) : EndsNumber (']' :: rest) := by
  rintro c ⟨⟩
  decide

theorem endsNumber_brace (rest : List Char) : EndsNumber ('}' :: rest) := by
  rintro c ⟨⟩
  decide

/-! ### Reading -/

/-- No part begins with a blank or with a mark that closes something. -/
theorem Reads.head {text : List Char} {part : Source.Part} (h : Reads text part) :
    ∃ c tail, text = c :: tail ∧ isSpace c = false ∧ c ≠ ']' ∧ c ≠ '}' := by
  induction h with
  | number h =>
    obtain ⟨c, tail, htext, hc⟩ := h.begins
    exact ⟨c, tail, htext, hc.isSpace_eq_false, hc.ne (by decide), hc.ne (by decide)⟩
  | item _ _ ih =>
    obtain ⟨c, tail, rfl, hc⟩ := ih
    exact ⟨c, _, rfl, hc⟩
  | itemsCons _ _ _ _ ih _ =>
    obtain ⟨c, tail, rfl, hc⟩ := ih
    exact ⟨c, _, rfl, hc⟩
  | _ =>
    refine ⟨_, _, rfl, ?_⟩
    decide

theorem readValue_number {fuel : Nat} {c : Char} {tail : List Char} (hc : BeginsNumber c) :
    readValue (fuel + 1) (c :: tail) =
      match readNumber (c :: tail) with
      | .ok (number, rest) => (.num number.value, some rest)
      | .error flaw => (.broken flaw .malformed .malformed, none) := by
  have hmarks : c ≠ 'n' ∧ c ≠ 't' ∧ c ≠ 'f' ∧ c ≠ '"' ∧ c ≠ '[' ∧ c ≠ '{' :=
    ⟨hc.ne (by decide), hc.ne (by decide), hc.ne (by decide), hc.ne (by decide), hc.ne (by decide),
      hc.ne (by decide)⟩
  rw [readValue, skipSpace_cons hc.isSpace_eq_false]
  split
  case h_7 => exact if_pos hc
  all_goals simp_all

theorem readValue_arr {fuel : Nat} {before : List Char} {c : Char} {tail : List Char}
    (hbefore : IsBlank before) (hspace : isSpace c = false) (hclose : c ≠ ']') :
    readValue (fuel + 1) ('[' :: before ++ c :: tail) =
      (.arr (readItems fuel (c :: tail)).1 (readItems fuel (c :: tail)).2.1,
        (readItems fuel (c :: tail)).2.2) := by
  have hclosed : ∀ rest, c :: tail ≠ ']' :: rest := by
    rintro rest ⟨⟩
    exact hclose rfl
  simp only [readValue, List.cons_append, skipSpace_cons (show isSpace '[' = false by decide),
    skipSpace_blank hbefore, skipSpace_cons hspace]

theorem readValue_obj {fuel : Nat} {before : List Char} {c : Char} {tail : List Char}
    (hbefore : IsBlank before) (hspace : isSpace c = false) (hclose : c ≠ '}') :
    readValue (fuel + 1) ('{' :: before ++ c :: tail) =
      (.obj (readFields fuel (c :: tail)).1 (readFields fuel (c :: tail)).2.1,
        (readFields fuel (c :: tail)).2.2) := by
  have hclosed : ∀ rest, c :: tail ≠ '}' :: rest := by
    rintro rest ⟨⟩
    exact hclose rfl
  simp only [readValue, List.cons_append, skipSpace_cons (show isSpace '{' = false by decide),
    skipSpace_blank hbefore, skipSpace_cons hspace]

/-- After a value and a comma, the reader goes on with the other items. -/
theorem readItems_comma {fuel : Nat} {text after before tail : List Char} {c : Char}
    {source : Source} (hafter : IsBlank after) (hbefore : IsBlank before)
    (hspace : isSpace c = false) (hclose : c ≠ ']')
    (hread : readValue fuel text = (source, some (after ++ ',' :: (before ++ c :: tail)))) :
    readItems (fuel + 1) text =
      (source :: (readItems fuel (c :: tail)).1, (readItems fuel (c :: tail)).2.1,
        (readItems fuel (c :: tail)).2.2) := by
  have hclosed : ∀ rest, c :: tail ≠ ']' :: rest := by
    rintro rest ⟨⟩
    exact hclose rfl
  simp only [readItems, hread, skipSpace_blank hafter, skipSpace_blank hbefore, skipSpace_comma,
    skipSpace_cons hspace]

/-- After a key and a colon, the reader goes on with a value, and if this is followed by a comma,
with the other fields. -/
theorem readFields_comma {fuel : Nat} {key between before text after gap tail : List Char}
    {literal : Literal} {c : Char} {source : Source} (hkey : IsLiteral key literal)
    (hfuel : key.length < fuel) (hbetween : IsBlank between) (hbefore : IsBlank before)
    (hafter : IsBlank after) (hgap : IsBlank gap) (hspace : isSpace c = false)
    (hread : readValue fuel text = (source, some (after ++ ',' :: (gap ++ c :: tail)))) :
    readFields (fuel + 1) ('"' :: (key ++ '"' :: (between ++ ':' :: (before ++ text)))) =
      ((literal, source) :: (readFields fuel (c :: tail)).1,
        (readFields fuel (c :: tail)).2.1, (readFields fuel (c :: tail)).2.2) := by
  have hliteral := hkey (between ++ ':' :: (before ++ text)) hfuel
  simp only [readFields, hliteral, skipSpace_blank hbetween, readValue_blank hbefore, hread,
    skipSpace_colon, skipSpace_blank hafter, skipSpace_comma, skipSpace_blank hgap,
    skipSpace_cons hspace]

/-- What reading a text finds that is read as a part. -/
def Source.Part.ReadFrom (text : List Char) (fuel : Nat) (rest : List Char) : Source.Part → Prop
  | .value source => 2 * text.length ≤ fuel → EndsNumber rest →
      readValue fuel (text ++ rest) = (source, some rest)
  | .items list => 2 * text.length + 1 ≤ fuel →
      readItems fuel (text ++ ']' :: rest) = (list, none, some rest)
  | .fields list => 2 * text.length + 1 ≤ fuel →
      readFields fuel (text ++ '}' :: rest) = (list, none, some rest)

/-- The reader makes of a text what it is read as, and stops after it. -/
theorem Reads.read {text : List Char} {part : Source.Part} (h : Reads text part) (fuel : Nat)
    (rest : List Char) : part.ReadFrom text fuel rest := by
  induction h generalizing fuel rest with
  | null =>
    intro hfuel _
    obtain ⟨fuel, rfl⟩ := Nat.exists_eq_add_one.mpr (Nat.lt_of_lt_of_le (by decide) hfuel)
    simp [readValue, skipSpace_cons, isSpace, readNamed, readWord]
  | yes =>
    intro hfuel _
    obtain ⟨fuel, rfl⟩ := Nat.exists_eq_add_one.mpr (Nat.lt_of_lt_of_le (by decide) hfuel)
    simp [readValue, skipSpace_cons, isSpace, readNamed, readWord]
  | no =>
    intro hfuel _
    obtain ⟨fuel, rfl⟩ := Nat.exists_eq_add_one.mpr (Nat.lt_of_lt_of_le (by decide) hfuel)
    simp [readValue, skipSpace_cons, isSpace, readNamed, readWord]
  | number h =>
    intro hfuel hrest
    have hread := h.read hrest
    obtain ⟨c, tail, rfl, hc⟩ := h.begins
    obtain ⟨fuel, rfl⟩ := Nat.exists_eq_add_one.mpr (Nat.lt_of_lt_of_le (by simp) hfuel)
    rw [List.cons_append] at hread ⊢
    rw [readValue_number hc, hread]
  | @str text literal h =>
    intro hfuel _
    obtain ⟨fuel, rfl⟩ := Nat.exists_eq_add_one.mpr (Nat.lt_of_lt_of_le (by simp) hfuel)
    have hliteral := h rest (show text.length < fuel by simp at hfuel; omega)
    simp [readValue, skipSpace_cons, isSpace, hliteral]
  | emptyArr hblank =>
    intro hfuel _
    obtain ⟨fuel, rfl⟩ := Nat.exists_eq_add_one.mpr (Nat.lt_of_lt_of_le (by simp) hfuel)
    simp [readValue, skipSpace_cons, isSpace, skipSpace_blank hblank]
  | @arr before text items hbefore hitems ih =>
    intro hfuel _
    obtain ⟨fuel, rfl⟩ := Nat.exists_eq_add_one.mpr (Nat.lt_of_lt_of_le (by simp) hfuel)
    have hread := ih fuel rest (by simp at hfuel; omega)
    obtain ⟨c, tail, rfl, hspace, hclose, -⟩ := hitems.head
    have hvalue := @readValue_arr fuel before c (tail ++ ']' :: rest) hbefore hspace hclose
    rw [List.cons_append] at hread
    rw [hread] at hvalue
    simpa using hvalue
  | emptyObj hblank =>
    intro hfuel _
    obtain ⟨fuel, rfl⟩ := Nat.exists_eq_add_one.mpr (Nat.lt_of_lt_of_le (by simp) hfuel)
    simp [readValue, skipSpace_cons, isSpace, skipSpace_blank hblank]
  | @obj before text fields hbefore hfields ih =>
    intro hfuel _
    obtain ⟨fuel, rfl⟩ := Nat.exists_eq_add_one.mpr (Nat.lt_of_lt_of_le (by simp) hfuel)
    have hread := ih fuel rest (by simp at hfuel; omega)
    obtain ⟨c, tail, rfl, hspace, -, hclose⟩ := hfields.head
    have hvalue := @readValue_obj fuel before c (tail ++ '}' :: rest) hbefore hspace hclose
    rw [List.cons_append] at hread
    rw [hread] at hvalue
    simpa using hvalue
  | @item text after source hafter _ ih =>
    intro hfuel
    obtain ⟨fuel, rfl⟩ := Nat.exists_eq_add_one.mpr (Nat.lt_of_lt_of_le (by simp) hfuel)
    have hread := ih fuel (after ++ ']' :: rest) (by simp at hfuel; omega)
      (endsNumber_blank hafter (endsNumber_bracket rest))
    simp only [List.append_assoc, readItems, hread, skipSpace_blank hafter, skipSpace_bracket]
  | @itemsCons text after before others source items hafter hbefore _ hitems ihsource ihitems =>
    intro hfuel
    obtain ⟨fuel, rfl⟩ := Nat.exists_eq_add_one.mpr (Nat.lt_of_lt_of_le (by simp) hfuel)
    have hread := ihsource fuel (after ++ ',' :: before ++ others ++ ']' :: rest)
      (by simp at hfuel; omega) (by
        simpa using endsNumber_blank hafter (endsNumber_comma (before ++ others ++ ']' :: rest)))
    have hreadOthers := ihitems fuel rest (by simp at hfuel; omega)
    obtain ⟨c, tail, rfl, hspace, hclose, -⟩ := hitems.head
    simp only [List.append_assoc, List.cons_append] at hread hreadOthers ⊢
    rw [readItems_comma hafter hbefore hspace hclose hread, hreadOthers]
  | @field key between before text after literal source hkey hbetween hbefore hafter _ ih =>
    intro hfuel
    obtain ⟨fuel, rfl⟩ := Nat.exists_eq_add_one.mpr (Nat.lt_of_lt_of_le (by simp) hfuel)
    have hliteral := hkey (between ++ ':' :: before ++ text ++ after ++ '}' :: rest)
      (show key.length < fuel by simp at hfuel; omega)
    have hread := ih fuel (after ++ '}' :: rest) (by simp at hfuel; omega)
      (endsNumber_blank hafter (endsNumber_brace rest))
    simp only [List.append_assoc, List.cons_append] at hliteral hread ⊢
    simp only [readFields, hliteral, skipSpace_blank hbetween, readValue_blank hbefore, hread,
      skipSpace_colon, skipSpace_blank hafter, skipSpace_brace]
  | @fieldsCons key between before text after gap others literal source fields hkey hbetween hbefore
      hafter hgap _ hfields ihsource ihfields =>
    intro hfuel
    obtain ⟨fuel, rfl⟩ := Nat.exists_eq_add_one.mpr (Nat.lt_of_lt_of_le (by simp) hfuel)
    have hread := ihsource fuel (after ++ ',' :: gap ++ others ++ '}' :: rest)
      (by simp at hfuel; omega) (by
        simpa using endsNumber_blank hafter (endsNumber_comma (gap ++ others ++ '}' :: rest)))
    have hreadOthers := ihfields fuel rest (by simp at hfuel; omega)
    obtain ⟨c, tail, rfl, hspace, -, -⟩ := hfields.head
    simp only [List.append_assoc, List.cons_append] at hread hreadOthers ⊢
    rw [readFields_comma hkey (by simp at hfuel; omega) hbetween hbefore hafter hgap hspace hread,
      hreadOthers]

/-! ### Whole texts -/

theorem endsNumber_of_blank {blank : List Char} (hblank : IsBlank blank) : EndsNumber blank := by
  cases blank with
  | nil =>
    rintro c ⟨⟩
  | cons c blank =>
    have hspace := endsNumber_blank hblank (endsNumber_comma [])
    rintro d ⟨⟩
    exact hspace c rfl

theorem skipSpace_of_blank {blank : List Char} (hblank : IsBlank blank) : skipSpace blank = [] := by
  simpa [skipSpace] using skipSpace_blank hblank []

/-- Of a whole text the reader makes what it is read as, whatever blanks stand around it. -/
theorem Reads.readDocument {before text after : List Char} {source : Source}
    (hbefore : IsBlank before) (hafter : IsBlank after) (h : Reads text (.value source)) :
    readDocument (before ++ text ++ after) = { root := source, trailing := none } := by
  have hread := h.read (2 * (before ++ text ++ after).length + 4) after (by simp; omega)
    (endsNumber_of_blank hafter)
  rw [← readValue_blank hbefore, ← List.append_assoc] at hread
  simp only [Json.readDocument, hread, skipSpace_of_blank hafter]
  rfl

end Errand.Json
