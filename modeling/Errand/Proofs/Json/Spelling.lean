import Errand.Proofs.Json.Sources

/-!
# What JSON text spells

`Spells text piece` says that a text is JSON for a value, or for the items of an array or the fields
of an object, with blanks between the tokens as anybody likes them. Numbers are whole numbers; one
that 64 bits do not hold stands for the number of floating point that it is read as. `Spells.read`
says that the reader finds in such a text what the text spells, and stops right after it.

What the writer writes follows the grammar in its compact layout and in its pretty one, so that what
is inherited along the grammar holds of it (`FollowsGrammar`). It spells every value without numbers
that are not whole (`spells_write`, `spells_writePretty`). Hence `readDocument_write`: the value
that was written is read back, field by field, as it was.
-/

set_option autoImplicit false

namespace Errand.Json

/-- A part of a JSON value that a text may spell. -/
inductive Piece
  /-- A value. -/
  | value (v : Json)
  /-- The items of an array, at least one. -/
  | items (items : List Json)
  /-- The fields of an object, at least one. -/
  | fields (fields : List (String × Json))

/-- The texts that spell a part of a value. -/
inductive Spells : List Char → Piece → Prop
  | null : Spells ['n', 'u', 'l', 'l'] (.value .null)
  | yes : Spells ['t', 'r', 'u', 'e'] (.value (.bool true))
  | no : Spells ['f', 'a', 'l', 's', 'e'] (.value (.bool false))
  /-- A whole number, read as the number that it stands for. -/
  | whole {negative : Bool} {digits : List Char} {n : Number} (hdigits : IsWholeDigits digits)
      (hvalue : (NumberText.ofDigits negative digits).value = some n) :
      Spells (sign negative ++ digits) (.value (.num n))
  | str {text : List Char} {s : String} (hs : SpellsChars text s.toList) :
      Spells ('"' :: text ++ ['"']) (.value (.str s))
  | emptyArr {blank : List Char} (hblank : IsBlank blank) :
      Spells ('[' :: blank ++ [']']) (.value (.arr []))
  | arr {before text : List Char} {items : List Json} (hbefore : IsBlank before)
      (hitems : Spells text (.items items)) :
      Spells ('[' :: before ++ text ++ [']']) (.value (.arr items))
  | emptyObj {blank : List Char} (hblank : IsBlank blank) :
      Spells ('{' :: blank ++ ['}']) (.value (.obj []))
  | obj {before text : List Char} {fields : List (String × Json)} (hbefore : IsBlank before)
      (hfields : Spells text (.fields fields)) :
      Spells ('{' :: before ++ text ++ ['}']) (.value (.obj fields))
  /-- The last item. -/
  | item {text after : List Char} {v : Json} (hafter : IsBlank after)
      (hv : Spells text (.value v)) : Spells (text ++ after) (.items [v])
  /-- An item and others after a comma. -/
  | itemsCons {text after before others : List Char} {v : Json} {items : List Json}
      (hafter : IsBlank after) (hbefore : IsBlank before) (hv : Spells text (.value v))
      (hitems : Spells others (.items items)) :
      Spells (text ++ after ++ ',' :: before ++ others) (.items (v :: items))
  /-- The last field. -/
  | field {key between before text after : List Char} {name : String} {v : Json}
      (hkey : SpellsChars key name.toList) (hbetween : IsBlank between) (hbefore : IsBlank before)
      (hafter : IsBlank after) (hv : Spells text (.value v)) :
      Spells ('"' :: key ++ '"' :: between ++ ':' :: before ++ text ++ after) (.fields [(name, v)])
  /-- A field and others after a comma. -/
  | fieldsCons {key between before text after gap others : List Char} {name : String} {v : Json}
      {fields : List (String × Json)} (hkey : SpellsChars key name.toList)
      (hbetween : IsBlank between) (hbefore : IsBlank before) (hafter : IsBlank after)
      (hgap : IsBlank gap) (hv : Spells text (.value v))
      (hfields : Spells others (.fields fields)) :
      Spells
        ('"' :: key ++ '"' :: between ++ ':' :: before ++ text ++ after ++ ',' :: gap ++ others)
        (.fields ((name, v) :: fields))

/-! ### Reading -/

theorem IsWholeDigits.head {digits : List Char} (hdigits : IsWholeDigits digits)
    (negative : Bool) : ∃ c tail, sign negative ++ digits = c :: tail ∧ BeginsNumber c := by
  obtain ⟨hne, hall, -⟩ := hdigits
  cases negative with
  | true => exact ⟨'-', digits, rfl, .inl rfl⟩
  | false =>
    obtain ⟨c, tail, rfl⟩ := List.exists_cons_of_ne_nil hne
    exact ⟨c, tail, rfl, .inr (hall c List.mem_cons_self)⟩

/-- A whole number is read from its digits. -/
theorem IsWholeDigits.isNumber {digits : List Char} (hdigits : IsWholeDigits digits)
    (negative : Bool) : IsNumber (sign negative ++ digits) (.ofDigits negative digits) :=
  ⟨hdigits.head negative, readNumber_whole negative hdigits⟩

theorem SpellsChars.isLiteral {text : List Char} {s : String} (h : SpellsChars text s.toList) :
    IsLiteral text { decoded := .ok s } :=
  h.readLiteral_eq

/-- A piece as the source that it would be read from. -/
def Piece.part : Piece → Source.Part
  | .value v => .value (.ofJson v)
  | .items list => .items (Source.ofItems list)
  | .fields list => .fields (Source.ofFields list)

/-- What is spelled is read. -/
theorem Spells.reads {text : List Char} {piece : Piece} (h : Spells text piece) :
    Reads text piece.part := by
  induction h with
  | null => exact .null
  | yes => exact .yes
  | no => exact .no
  | @whole negative digits n hdigits hvalue =>
    have hnumber := Reads.number (hdigits.isNumber negative)
    rwa [hvalue] at hnumber
  | str hs => exact .str hs.isLiteral
  | emptyArr hblank => exact .emptyArr hblank
  | arr hbefore _ ih => exact .arr hbefore ih
  | emptyObj hblank => exact .emptyObj hblank
  | obj hbefore _ ih => exact .obj hbefore ih
  | item hafter _ ih => exact .item hafter ih
  | itemsCons hafter hbefore _ _ ihv ihitems => exact .itemsCons hafter hbefore ihv ihitems
  | field hkey hbetween hbefore hafter _ ih =>
    exact .field hkey.isLiteral hbetween hbefore hafter ih
  | fieldsCons hkey hbetween hbefore hafter hgap _ _ ihv ihfields =>
    exact .fieldsCons hkey.isLiteral hbetween hbefore hafter hgap ihv ihfields

/-- No piece begins with a blank or with a mark that closes something. -/
theorem Spells.head {text : List Char} {piece : Piece} (h : Spells text piece) :
    ∃ c tail, text = c :: tail ∧ isSpace c = false ∧ c ≠ ']' ∧ c ≠ '}' :=
  h.reads.head

/-- What reading a text that spells something finds. -/
def Piece.ReadFrom (text : List Char) (fuel : Nat) (rest : List Char) : Piece → Prop
  | .value v => 2 * text.length ≤ fuel → EndsNumber rest →
      readValue fuel (text ++ rest) = (.ofJson v, some rest)
  | .items list => 2 * text.length + 1 ≤ fuel →
      readItems fuel (text ++ ']' :: rest) = (Source.ofItems list, none, some rest)
  | .fields list => 2 * text.length + 1 ≤ fuel →
      readFields fuel (text ++ '}' :: rest) = (Source.ofFields list, none, some rest)

/-- The reader finds what a text spells and stops after it. -/
theorem Spells.read {text : List Char} {piece : Piece} (h : Spells text piece) (fuel : Nat)
    (rest : List Char) : piece.ReadFrom text fuel rest := by
  cases piece <;> exact h.reads.read fuel rest

/-- A whole text is read as what it spells, whatever blanks stand around it. -/
theorem readDocument_of_spells {before text after : List Char} {v : Json}
    (hbefore : IsBlank before) (hafter : IsBlank after) (h : Spells text (.value v)) :
    readDocument (before ++ text ++ after) = { root := .ofJson v, trailing := none } :=
  h.reads.readDocument hbefore hafter

/-! ### Writing -/

theorem isBlank_space : IsBlank [' '] := by
  intro c hc
  obtain rfl := List.mem_singleton.mp hc
  decide

theorem isBlank_lineStart (level : Nat) : IsBlank (lineStart level) := by
  intro c hc
  rcases List.mem_cons.mp hc with rfl | hc
  · decide
  · rw [(List.mem_replicate.mp hc).2]
    decide

/-- What holds of a text and a part of a value if it holds of its parts, for all texts that follow
the grammar and for the numbers that are written. -/
structure FollowsGrammar (R : List Char → Piece → Prop) : Prop where
  null : R ['n', 'u', 'l', 'l'] (.value .null)
  yes : R ['t', 'r', 'u', 'e'] (.value (.bool true))
  no : R ['f', 'a', 'l', 's', 'e'] (.value (.bool false))
  number : ∀ n, R (writeNumber n) (.value (.num n))
  str : ∀ {text s}, SpellsChars text s.toList → R ('"' :: text ++ ['"']) (.value (.str s))
  emptyArr : ∀ {blank}, IsBlank blank → R ('[' :: blank ++ [']']) (.value (.arr []))
  arr : ∀ {before text items}, IsBlank before → R text (.items items) →
    R ('[' :: before ++ text ++ [']']) (.value (.arr items))
  emptyObj : ∀ {blank}, IsBlank blank → R ('{' :: blank ++ ['}']) (.value (.obj []))
  obj : ∀ {before text fields}, IsBlank before → R text (.fields fields) →
    R ('{' :: before ++ text ++ ['}']) (.value (.obj fields))
  item : ∀ {text after v}, IsBlank after → R text (.value v) → R (text ++ after) (.items [v])
  itemsCons : ∀ {text after before others v items}, IsBlank after → IsBlank before →
    R text (.value v) → R others (.items items) →
      R (text ++ after ++ ',' :: before ++ others) (.items (v :: items))
  field : ∀ {key between before text after name v}, SpellsChars key name.toList →
    IsBlank between → IsBlank before → IsBlank after → R text (.value v) →
      R ('"' :: key ++ '"' :: between ++ ':' :: before ++ text ++ after) (.fields [(name, v)])
  fieldsCons : ∀ {key between before text after gap others name v fields},
    SpellsChars key name.toList → IsBlank between → IsBlank before → IsBlank after → IsBlank gap →
      R text (.value v) → R others (.fields fields) →
        R ('"' :: key ++ '"' :: between ++ ':' :: before ++ text ++ after ++ ',' :: gap ++ others)
          (.fields ((name, v) :: fields))

namespace FollowsGrammar

variable {R : List Char → Piece → Prop} (h : FollowsGrammar R)

include h

mutual

/-- It holds of the compact text of a value. -/
theorem write : (v : Json) → R (Json.write v) (.value v)
  | .null => h.null
  | .bool true => h.yes
  | .bool false => h.no
  | .num n => h.number n
  | .str s => h.str (.flatMap_escapeChar s.toList)
  | .arr [] => h.emptyArr isBlank_nil
  | .arr (item :: rest) => h.arr isBlank_nil (writeItems (item :: rest) (by simp))
  | .obj [] => h.emptyObj isBlank_nil
  | .obj (field :: rest) => h.obj isBlank_nil (writeFields (field :: rest) (by simp))

theorem writeItems : (items : List Json) → items ≠ [] → R (Json.writeItems items) (.items items)
  | [item], _ => by
    have hitem := h.item isBlank_nil (write item)
    simpa [Json.writeItems] using hitem
  | item :: next :: rest, _ => by
    have hrest := writeItems (next :: rest) (by simp)
    have hitems := h.itemsCons isBlank_nil isBlank_nil (write item) hrest
    simpa [Json.writeItems] using hitems

theorem writeFields : (fields : List (String × Json)) → fields ≠ [] →
    R (Json.writeFields fields) (.fields fields)
  | [(key, value)], _ => by
    have hfield := h.field (.flatMap_escapeChar key.toList) isBlank_nil isBlank_nil isBlank_nil
      (write value)
    simpa [Json.writeFields, writeString] using hfield
  | (key, value) :: next :: rest, _ => by
    have hrest := writeFields (next :: rest) (by simp)
    have hfields := h.fieldsCons (.flatMap_escapeChar key.toList) isBlank_nil isBlank_nil
      isBlank_nil isBlank_nil (write value) hrest
    simpa [Json.writeFields, writeString] using hfields

end

mutual

/-- It holds of the pretty text of a value too, at every level. -/
theorem writePretty (level : Nat) : (v : Json) → R (Json.writePretty level v) (.value v)
  | .null => h.null
  | .bool true => h.yes
  | .bool false => h.no
  | .num n => h.number n
  | .str s => h.str (.flatMap_escapeChar s.toList)
  | .arr [] => h.emptyArr isBlank_nil
  | .arr (item :: rest) => by
    obtain ⟨text, htext, hitems⟩ :=
      writePrettyItems (level + 1) (item :: rest) (by simp) (isBlank_lineStart level)
    have harr := h.arr (isBlank_lineStart (level + 1)) hitems
    simpa [Json.writePretty, ← htext] using harr
  | .obj [] => h.emptyObj isBlank_nil
  | .obj (field :: rest) => by
    obtain ⟨text, htext, hfields⟩ :=
      writePrettyFields (level + 1) (field :: rest) (by simp) (isBlank_lineStart level)
    have hobj := h.obj (isBlank_lineStart (level + 1)) hfields
    simpa [Json.writePretty, ← htext] using hobj

/-- The items begin on a line of their own, and any blanks may stand after them. -/
theorem writePrettyItems (level : Nat) {after : List Char} :
    (items : List Json) → items ≠ [] → IsBlank after →
      ∃ text, lineStart level ++ text = Json.writePrettyItems level items ++ after ∧
        R text (.items items)
  | [item], _, hafter =>
    ⟨Json.writePretty level item ++ after, by simp [Json.writePrettyItems],
      h.item hafter (writePretty level item)⟩
  | item :: next :: rest, _, hafter => by
    obtain ⟨text, htext, hrest⟩ := writePrettyItems level (next :: rest) (by simp) hafter
    have hitems := h.itemsCons isBlank_nil (isBlank_lineStart level) (writePretty level item) hrest
    refine ⟨_, ?_, hitems⟩
    simp [Json.writePrettyItems, htext]

/-- The fields begin on a line of their own, and any blanks may stand after them. -/
theorem writePrettyFields (level : Nat) {after : List Char} :
    (fields : List (String × Json)) → fields ≠ [] → IsBlank after →
      ∃ text, lineStart level ++ text = Json.writePrettyFields level fields ++ after ∧
        R text (.fields fields)
  | [(key, value)], _, hafter => by
    have hfield := h.field (.flatMap_escapeChar key.toList) isBlank_nil isBlank_space hafter
      (writePretty level value)
    refine ⟨_, ?_, hfield⟩
    simp [Json.writePrettyFields, writeString]
  | (key, value) :: next :: rest, _, hafter => by
    obtain ⟨text, htext, hrest⟩ := writePrettyFields level (next :: rest) (by simp) hafter
    have hfields := h.fieldsCons (.flatMap_escapeChar key.toList) isBlank_nil isBlank_space
      isBlank_nil (isBlank_lineStart level) (writePretty level value) hrest
    refine ⟨_, ?_, hfields⟩
    simp [Json.writePrettyFields, writeString, htext]

end

end FollowsGrammar

/-! ### Writing whole numbers -/

mutual

/-- Whether every number of a value is a whole number of 64 bits. -/
def IsWhole : Json → Prop
  | .num (.int n) => -2 ^ 63 ≤ n ∧ n < 2 ^ 64
  | .num (.real _) => False
  | .arr items => AreWhole items
  | .obj fields => HaveWhole fields
  | _ => True

/-- Whether every number of the items is. -/
def AreWhole : List Json → Prop
  | [] => True
  | item :: rest => IsWhole item ∧ AreWhole rest

/-- Whether every number of the fields is. -/
def HaveWhole : List (String × Json) → Prop
  | [] => True
  | (_, value) :: rest => IsWhole value ∧ HaveWhole rest

end

/-- Whether every number of a piece is. -/
def Piece.IsWhole : Piece → Prop
  | .value v => v.IsWhole
  | .items list => AreWhole list
  | .fields list => HaveWhole list

/-- The writer spells a whole number of 64 bits. -/
theorem spells_writeNumber {n : Int} (hlow : -2 ^ 63 ≤ n) (hhigh : n < 2 ^ 64) :
    Spells (writeNumber (.int n)) (.value (.num (.int n))) := by
  rw [writeNumber_int_eq]
  exact .whole (isWholeDigits_toDigits n.natAbs) (NumberText.value_ofInt hlow hhigh)

/-- What follows the grammar is spelled, if its numbers are whole. -/
theorem followsGrammar_spells :
    FollowsGrammar fun text piece ↦ piece.IsWhole → Spells text piece where
  null _ := .null
  yes _ := .yes
  no _ := .no
  number n h := by
    cases n with
    | int n => exact spells_writeNumber h.1 h.2
    | real x => exact False.elim h
  str hs _ := .str hs
  emptyArr hblank _ := .emptyArr hblank
  arr hbefore hitems h := .arr hbefore (hitems h)
  emptyObj hblank _ := .emptyObj hblank
  obj hbefore hfields h := .obj hbefore (hfields h)
  item hafter hv h := .item hafter (hv h.1)
  itemsCons hafter hbefore hv hitems h := .itemsCons hafter hbefore (hv h.1) (hitems h.2)
  field hkey hbetween hbefore hafter hv h := .field hkey hbetween hbefore hafter (hv h.1)
  fieldsCons hkey hbetween hbefore hafter hgap hv hfields h :=
    .fieldsCons hkey hbetween hbefore hafter hgap (hv h.1) (hfields h.2)

/-- The writer spells the value that it is given. -/
theorem spells_write (v : Json) (h : IsWhole v) : Spells (write v) (.value v) :=
  followsGrammar_spells.write v h

/-- The pretty text spells its value too, at every level. -/
theorem spells_writePretty (level : Nat) (v : Json) (h : IsWhole v) :
    Spells (writePretty level v) (.value v) :=
  followsGrammar_spells.writePretty level v h

/-- A value that was written is read back as it was. -/
theorem readDocument_write {v : Json} (h : IsWhole v) :
    readDocument (write v) = { root := .ofJson v, trailing := none } := by
  simpa using readDocument_of_spells isBlank_nil isBlank_nil (spells_write v h)

end Errand.Json
