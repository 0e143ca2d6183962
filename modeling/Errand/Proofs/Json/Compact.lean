import Errand.Json.Writer
import Errand.Proofs.Json.Reading

/-!
# Compact texts

The compact text of a value is one line, whatever texts and numbers the value holds
(`isOneLine_write`): line breaks of a text are escaped. It is read back as the value
(`parse_compact`).
-/

set_option autoImplicit false

namespace Errand

/-! ### Texts of one line -/

/-- Whether a text has neither line feeds nor carriage returns. -/
def Text.IsOneLine (text : List Char) : Prop :=
  ∀ c ∈ text, c ≠ '\n' ∧ c ≠ '\r'

namespace Text

theorem isOneLine_nil : IsOneLine [] := by
  simp [IsOneLine]

@[simp] theorem isOneLine_cons {c : Char} {text : List Char} :
    IsOneLine (c :: text) ↔ (c ≠ '\n' ∧ c ≠ '\r') ∧ IsOneLine text :=
  List.forall_mem_cons

@[simp] theorem isOneLine_append {front back : List Char} :
    IsOneLine (front ++ back) ↔ IsOneLine front ∧ IsOneLine back :=
  List.forall_mem_append

theorem IsOneLine.flatMap {text : List Char} {f : Char → List Char} (h : ∀ c, IsOneLine (f c)) :
    IsOneLine (text.flatMap f) := by
  intro d hd
  obtain ⟨c, -, hc⟩ := List.mem_flatMap.mp hd
  exact h c d hc

theorem IsOneLine.of_subset {text part : List Char} (h : IsOneLine text) (hpart : part ⊆ text) :
    IsOneLine part :=
  fun c hc ↦ h c (hpart hc)

theorem isOneLine_replicate (n : Nat) : IsOneLine (List.replicate n '0') := by
  intro c hc
  rw [List.eq_of_mem_replicate hc]
  decide

/-- Digits stay on their line. -/
theorem isOneLine_of_isDigit {digits : List Char} (h : ∀ c ∈ digits, c.isDigit) :
    IsOneLine digits := by
  intro c hc
  have hdigit := h c hc
  constructor <;> rintro rfl <;> cases hdigit

theorem isOneLine_repr (n : Nat) : IsOneLine (Nat.repr n).toList := by
  rw [Nat.repr, String.toList_ofList]
  exact isOneLine_of_isDigit Json.isDigit_of_mem_toDigits

end Text

open Text (IsOneLine)

/-! ### Numbers -/

namespace Number

theorem isOneLine_positional (layout : Layout) {digits : List Char} (h : IsOneLine digits)
    (exponent : Int) : IsOneLine (positional layout digits exponent) := by
  unfold positional
  split
  · cases layout.keepFraction <;> simp [h, Text.isOneLine_replicate, Text.isOneLine_nil]
  · dsimp only
    split
    · simp [h.of_subset (List.take_subset _ _), h.of_subset (List.drop_subset _ _)]
    · simp [h, Text.isOneLine_replicate]

theorem isOneLine_scientific {digits : List Char} (h : IsOneLine digits) (first : Int) :
    IsOneLine (scientific digits first) := by
  have hsign : ∀ c, c = (if first < 0 then '-' else '+') → c ≠ '\n' ∧ c ≠ '\r' := by
    rintro c rfl
    split <;> decide
  unfold scientific
  rw [Text.isOneLine_append, Text.isOneLine_cons, Text.isOneLine_cons]
  refine ⟨?_, by decide, hsign _ rfl, Text.isOneLine_repr _⟩
  split
  · exact Text.isOneLine_nil
  · exact h
  · simpa using h

theorem isOneLine_render (layout : Layout) (format : Format) (x : Binary) :
    IsOneLine (layout.render format x).toList := by
  simp only [Layout.render, String.toList_ofList, Text.isOneLine_append]
  constructor
  · cases x.negative <;> simp [Text.isOneLine_nil]
  · generalize (if x.mantissa = 0 then ⟨0, 0⟩ else (shortest format x).dropZeros 20) = decimal
    split
    · exact isOneLine_positional layout (Text.isOneLine_repr _) _
    · exact isOneLine_scientific (Text.isOneLine_repr _) _

end Number

/-! ### Values -/

namespace Json

theorem isOneLine_writeNumber (n : Number) : IsOneLine (writeNumber n) := by
  cases n with
  | real x => exact Number.isOneLine_render _ _ x
  | int n =>
    rw [writeNumber_int_eq, Text.isOneLine_append]
    constructor
    · unfold sign
      split <;> simp [Text.isOneLine_nil]
    · exact Text.isOneLine_of_isDigit isDigit_of_mem_toDigits

theorem isOneLine_hexDigit : ∀ n < 16, hexDigit n ≠ '\n' ∧ hexDigit n ≠ '\r' := by
  decide

/-- Line breaks are escaped. -/
theorem isOneLine_escapeChar (c : Char) : IsOneLine (escapeChar c) := by
  unfold escapeChar
  split
  case h_8 hfeed hreturn _ =>
    split
    · next hcontrol =>
      have hhigh := isOneLine_hexDigit (c.toNat / 16) (by omega)
      have hlow := isOneLine_hexDigit (c.toNat % 16) (by omega)
      simp [hhigh, hlow, Text.isOneLine_nil]
    · simp only [Text.isOneLine_cons, Text.isOneLine_nil, and_true]
      exact ⟨hfeed, hreturn⟩
  all_goals simp [Text.isOneLine_nil]

theorem isOneLine_writeString (s : String) : IsOneLine (writeString s) := by
  simp [writeString, Text.IsOneLine.flatMap isOneLine_escapeChar, Text.isOneLine_nil]

mutual

/-- The compact text of a value is one line. -/
theorem isOneLine_write : (v : Json) → IsOneLine (write v)
  | .null | .bool true | .bool false => by simp [write, Text.isOneLine_nil]
  | .num n => isOneLine_writeNumber n
  | .str s => isOneLine_writeString s
  | .arr items => by simp [write, isOneLine_writeItems items, Text.isOneLine_nil]
  | .obj fields => by simp [write, isOneLine_writeFields fields, Text.isOneLine_nil]

theorem isOneLine_writeItems : (items : List Json) → IsOneLine (writeItems items)
  | [] => Text.isOneLine_nil
  | [item] => isOneLine_write item
  | item :: next :: rest => by
    simp [writeItems, isOneLine_write item, isOneLine_writeItems (next :: rest)]

theorem isOneLine_writeFields : (fields : List (String × Json)) → IsOneLine (writeFields fields)
  | [] => Text.isOneLine_nil
  | [(key, value)] => by
    simp [writeFields, isOneLine_writeString, isOneLine_write value]
  | (key, value) :: next :: rest => by
    simp [writeFields, isOneLine_writeString, isOneLine_write value,
      isOneLine_writeFields (next :: rest)]

end

theorem isOneLine_compact (v : Json) : IsOneLine v.compact.toList := by
  rw [compact, String.toList_ofList]
  exact isOneLine_write v

/-- The value that a compact text was written from is read, with nothing behind it. -/
theorem readDocument_compact {v : Json} (hwhole : IsWhole v) :
    readDocument v.compact.toList = { root := .ofJson v, trailing := none } := by
  rw [compact, String.toList_ofList]
  exact readDocument_write hwhole

/-- A compact text is read back as the value that was written. -/
theorem parse_compact {v : Json} (hwhole : IsWhole v) (hkeys : v.HasDistinctKeys)
    (hdepth : v.depth ≤ Source.maxDepth) : parse v.compact = .ok v := by
  rw [parse, compact, String.toList_ofList]
  simpa using read_of_spells isBlank_nil isBlank_nil (spells_write v hwhole) hkeys hdepth

/-- A pretty text is read back too. -/
theorem parse_pretty {v : Json} (hwhole : IsWhole v) (hkeys : v.HasDistinctKeys)
    (hdepth : v.depth ≤ Source.maxDepth) : parse v.pretty = .ok v := by
  rw [parse, pretty, String.toList_ofList]
  simpa using read_of_spells isBlank_nil isBlank_nil (spells_writePretty 0 v hwhole) hkeys hdepth

/-- Whether a value is read back from its compact text. -/
def Returns (value : Json) : Prop :=
  parse value.compact = .ok value

theorem returns_of {value : Json} (hwhole : value.IsWhole) (hkeys : value.HasDistinctKeys)
    (hdepth : value.depth ≤ Source.maxDepth) : value.Returns :=
  parse_compact hwhole hkeys hdepth

/-- An object with nothing but texts in it is read back. -/
theorem returns_texts (texts : List (String × String)) (h : (texts.map Prod.fst).Nodup) :
    (Json.obj (texts.map fun (name, text) ↦ (name, .str text))).Returns := by
  have hfields : HaveWhole (texts.map fun (name, text) ↦ (name, Json.str text)) ∧
      FieldsHaveDistinctKeys (texts.map fun (name, text) ↦ (name, Json.str text)) ∧
      depthFields (texts.map fun (name, text) ↦ (name, Json.str text)) = 0 := by
    clear h
    induction texts with
    | nil => exact ⟨trivial, trivial, rfl⟩
    | cons field texts ih =>
      obtain ⟨hwhole, hkeys, hdepth⟩ := ih
      exact ⟨⟨trivial, hwhole⟩, ⟨trivial, hkeys⟩, by simp [depthFields, depth, hdepth]⟩
  obtain ⟨hwhole, hkeys, hdepth⟩ := hfields
  refine returns_of hwhole ⟨?_, hkeys⟩ (by simp [depth, hdepth, Source.maxDepth])
  simpa [Entries.names, Function.comp_def] using h

end Json

end Errand
