import Errand.Proofs.Json.Spelling

/-!
# What reading a whole text comes to

A text that spells a value is read as this value, with the fields of its objects in order
(`read_of_spells`). Two things are asked of the value: no object may name a field twice, since a
reader keeps one of them only, and arrays and objects may not stand inside one another more than
`Source.maxDepth` deep.

`Lacks text kind` says that the text begins like JSON up to a place where a mark stands instead of a
value. The reader stops there, however the text goes on, and nothing is read
(`exists_read_of_lacks`).
-/

set_option autoImplicit false

namespace Errand.Json

/-! ### Values that are read back -/

mutual

/-- How many arrays and objects of a value stand inside one another. -/
def depth : Json → Nat
  | .arr items => depthItems items + 1
  | .obj fields => depthFields fields + 1
  | _ => 0

/-- The greatest depth of the items. -/
def depthItems : List Json → Nat
  | [] => 0
  | item :: rest => max (depth item) (depthItems rest)

/-- The greatest depth of the fields. -/
def depthFields : List (String × Json) → Nat
  | [] => 0
  | (_, value) :: rest => max (depth value) (depthFields rest)

end

mutual

/-- Whether no object of a value names a field twice. -/
def HasDistinctKeys : Json → Prop
  | .arr items => ItemsHaveDistinctKeys items
  | .obj fields => (Entries.names fields).Nodup ∧ FieldsHaveDistinctKeys fields
  | _ => True

/-- Whether none of the items does. -/
def ItemsHaveDistinctKeys : List Json → Prop
  | [] => True
  | item :: rest => HasDistinctKeys item ∧ ItemsHaveDistinctKeys rest

/-- Whether no value of the fields does. -/
def FieldsHaveDistinctKeys : List (String × Json) → Prop
  | [] => True
  | (_, value) :: rest => HasDistinctKeys value ∧ FieldsHaveDistinctKeys rest

end

namespace Source

theorem enter_of_lt {level : Nat} (h : level < maxDepth) : enter level = .ok () :=
  if_pos h

mutual

/-- A value is read from what would be its text. -/
theorem toJson_ofJson (level : Nat) : (v : Json) → v.HasDistinctKeys →
    level + v.depth ≤ maxDepth → toJson level (ofJson v) = .ok v
  | .null, _, _ | .bool _, _, _ | .num _, _, _ | .str _, _, _ => rfl
  | .arr items, hkeys, hdepth => by
    simp only [depth] at hdepth
    have hitems := toItems_ofItems (level + 1) items hkeys (by omega)
    simp [ofJson, toJson, enter_of_lt (show level < maxDepth by omega), hitems, bind, Except.bind]
  | .obj fields, hkeys, hdepth => by
    simp only [depth] at hdepth
    have hfields := toFields_ofFields (level + 1) [] fields (by simpa using hkeys.1) hkeys.2
      (by omega)
    simp [ofJson, toJson, enter_of_lt (show level < maxDepth by omega), hfields, bind, Except.bind]

theorem toItems_ofItems (level : Nat) : (items : List Json) → ItemsHaveDistinctKeys items →
    level + depthItems items ≤ maxDepth → toItems level (ofItems items) = .ok items
  | [], _, _ => rfl
  | item :: rest, hkeys, hdepth => by
    simp only [depthItems] at hdepth
    have hitem := toJson_ofJson level item hkeys.1 (by omega)
    have hrest := toItems_ofItems level rest hkeys.2 (by omega)
    simp [ofItems, toItems, hitem, hrest, bind, Except.bind, pure, Except.pure]

theorem toFields_ofFields (level : Nat) (done : List (String × Json)) :
    (fields : List (String × Json)) → (Entries.names (done ++ fields)).Nodup →
      FieldsHaveDistinctKeys fields → level + depthFields fields ≤ maxDepth →
        toFields level done (ofFields fields) = .ok (done ++ fields)
  | [], _, _, _ => by simp [ofFields, toFields]
  | (key, value) :: rest, hnames, hkeys, hdepth => by
    simp only [depthFields] at hdepth
    have hvalue := toJson_ofJson level value hkeys.1 (by omega)
    have hfresh : key ∉ Entries.names done := by
      intro hmem
      simp only [Entries.names, List.map_append, List.map_cons] at hnames hmem
      exact (List.nodup_append.mp hnames).2.2 key hmem key (by simp) rfl
    have hrest := toFields_ofFields level (done ++ [(key, value)]) rest (by simpa using hnames)
      hkeys.2 (by omega)
    simp [ofFields, toFields, hvalue, Entries.set_of_notMem hfresh, hrest, bind, Except.bind]

end

end Source

/-- A text is read as the value that it spells; blanks around it do not matter. -/
theorem read_of_spells {before text after : List Char} {v : Json} (hbefore : IsBlank before)
    (hafter : IsBlank after) (h : Spells text (.value v)) (hkeys : v.HasDistinctKeys)
    (hdepth : v.depth ≤ Source.maxDepth) : read (before ++ text ++ after) = .ok v := by
  have hvalue := Source.toJson_ofJson 0 v hkeys (by omega)
  rw [read, readDocument_of_spells hbefore hafter h, hvalue]
  rfl

/-! ### Texts that lack a value -/

theorem exists_ok_of_bind {ε α β : Type} {first : Except ε α} {second : α → Except ε β} {b : β}
    (h : first >>= second = .ok b) : ∃ a, first = .ok a ∧ second a = .ok b := by
  cases first with
  | error e => cases h
  | ok a => exact ⟨a, rfl, h⟩

/-- The parts of a value, without their content. -/
inductive Kind
  | value
  | items
  | fields

/-- The texts in which a part breaks off at a mark that stands instead of a value. -/
inductive Lacks : List Char → Kind → Prop
  | mark (rest : List Char) : Lacks ('#' :: rest) .value
  | arr {before text : List Char} (hbefore : IsBlank before) (h : Lacks text .items) :
      Lacks ('[' :: before ++ text) .value
  | obj {before text : List Char} (hbefore : IsBlank before) (h : Lacks text .fields) :
      Lacks ('{' :: before ++ text) .value
  | item {text : List Char} (h : Lacks text .value) : Lacks text .items
  | laterItem {text after before others : List Char} {v : Json} (hafter : IsBlank after)
      (hbefore : IsBlank before) (hv : Spells text (.value v)) (h : Lacks others .items) :
      Lacks (text ++ after ++ ',' :: before ++ others) .items
  | field {key between before text : List Char} {name : String}
      (hkey : SpellsChars key name.toList) (hbetween : IsBlank between) (hbefore : IsBlank before)
      (h : Lacks text .value) :
      Lacks ('"' :: key ++ '"' :: between ++ ':' :: before ++ text) .fields
  | laterField {key between before text after gap others : List Char} {name : String} {v : Json}
      (hkey : SpellsChars key name.toList) (hbetween : IsBlank between) (hbefore : IsBlank before)
      (hafter : IsBlank after) (hgap : IsBlank gap) (hv : Spells text (.value v))
      (h : Lacks others .fields) :
      Lacks
        ('"' :: key ++ '"' :: between ++ ':' :: before ++ text ++ after ++ ',' :: gap ++ others)
        .fields

/-- What a text lacks is not found by reading on. -/
theorem Lacks.append {text : List Char} {kind : Kind} (h : Lacks text kind) (rest : List Char) :
    Lacks (text ++ rest) kind := by
  induction h with
  | mark tail => exact .mark (tail ++ rest)
  | arr hbefore _ ih => simpa using Lacks.arr hbefore ih
  | obj hbefore _ ih => simpa using Lacks.obj hbefore ih
  | item _ ih => exact .item ih
  | laterItem hafter hbefore hv _ ih => simpa using Lacks.laterItem hafter hbefore hv ih
  | field hkey hbetween hbefore _ ih => simpa using Lacks.field hkey hbetween hbefore ih
  | laterField hkey hbetween hbefore hafter hgap hv _ ih =>
    simpa using Lacks.laterField hkey hbetween hbefore hafter hgap hv ih

theorem Lacks.head {text : List Char} {kind : Kind} (h : Lacks text kind) :
    ∃ c tail, text = c :: tail ∧ isSpace c = false ∧ c ≠ ']' ∧ c ≠ '}' := by
  induction h with
  | item _ ih => exact ih
  | laterItem _ _ hv _ _ =>
    obtain ⟨c, tail, rfl, hc⟩ := hv.head
    exact ⟨c, _, rfl, hc⟩
  | _ =>
    refine ⟨_, _, rfl, ?_⟩
    decide

/-- What reading a part that lacks a value comes to: the reader stops, and what it has read so far
is no value. -/
def Kind.StopsAt (text : List Char) (fuel : Nat) : Kind → Prop
  | .value => 2 * text.length ≤ fuel → ∃ source, readValue fuel text = (source, none) ∧
      ∀ level v, source.toJson level ≠ .ok v
  | .items => 2 * text.length + 1 ≤ fuel → ∃ items ending,
      readItems fuel text = (items, ending, none) ∧
        ∀ level list, Source.toItems level items ≠ .ok list
  | .fields => 2 * text.length + 1 ≤ fuel → ∃ fields ending,
      readFields fuel text = (fields, ending, none) ∧
        ∀ level done list, Source.toFields level done fields ≠ .ok list

theorem Lacks.stops {text : List Char} {kind : Kind} (h : Lacks text kind) (fuel : Nat) :
    kind.StopsAt text fuel := by
  induction h generalizing fuel with
  | mark rest =>
    intro hfuel
    obtain ⟨fuel, rfl⟩ := Nat.exists_eq_add_one.mpr (Nat.lt_of_lt_of_le (by simp) hfuel)
    refine ⟨.broken .malformed .malformed .malformed, ?_, fun level v ↦ by simp [Source.toJson]⟩
    simp [readValue, skipSpace_cons, isSpace]
  | @arr before text hbefore h ih =>
    intro hfuel
    obtain ⟨fuel, rfl⟩ := Nat.exists_eq_add_one.mpr (Nat.lt_of_lt_of_le (by simp) hfuel)
    obtain ⟨items, ending, hread, hitems⟩ := ih fuel (by simp at hfuel; omega)
    obtain ⟨c, tail, rfl, hspace, hclose, -⟩ := h.head
    rw [readValue_arr hbefore hspace hclose, hread]
    refine ⟨_, rfl, fun level v hv ↦ ?_⟩
    rw [Source.toJson] at hv
    obtain ⟨_, _, hparts⟩ := exists_ok_of_bind hv
    obtain ⟨list, hlist, -⟩ := exists_ok_of_bind hparts
    exact hitems (level + 1) list hlist
  | @obj before text hbefore h ih =>
    intro hfuel
    obtain ⟨fuel, rfl⟩ := Nat.exists_eq_add_one.mpr (Nat.lt_of_lt_of_le (by simp) hfuel)
    obtain ⟨fields, ending, hread, hfields⟩ := ih fuel (by simp at hfuel; omega)
    obtain ⟨c, tail, rfl, hspace, -, hclose⟩ := h.head
    rw [readValue_obj hbefore hspace hclose, hread]
    refine ⟨_, rfl, fun level v hv ↦ ?_⟩
    rw [Source.toJson] at hv
    obtain ⟨_, _, hparts⟩ := exists_ok_of_bind hv
    obtain ⟨list, hlist, -⟩ := exists_ok_of_bind hparts
    exact hfields (level + 1) [] list hlist
  | item h ih =>
    intro hfuel
    obtain ⟨fuel, rfl⟩ := Nat.exists_eq_add_one.mpr (Nat.lt_of_lt_of_le (by simp) hfuel)
    obtain ⟨source, hread, hsource⟩ := ih fuel (by omega)
    refine ⟨[source], some .truncated, by rw [readItems, hread], fun level list hlist ↦ ?_⟩
    rw [Source.toItems] at hlist
    obtain ⟨v, hv, -⟩ := exists_ok_of_bind hlist
    exact hsource level v hv
  | @laterItem text after before others v hafter hbefore hv h ih =>
    intro hfuel
    obtain ⟨fuel, rfl⟩ := Nat.exists_eq_add_one.mpr (Nat.lt_of_lt_of_le (by simp) hfuel)
    obtain ⟨items, ending, hreadOthers, hitems⟩ := ih fuel (by simp at hfuel; omega)
    have hread := hv.read fuel (after ++ ',' :: before ++ others) (by simp at hfuel; omega) (by
      simpa using endsNumber_blank hafter (endsNumber_comma (before ++ others)))
    obtain ⟨c, tail, rfl, hspace, hclose, -⟩ := h.head
    refine ⟨.ofJson v :: items, ending, ?_, fun level list hlist ↦ ?_⟩
    · simp only [List.append_assoc, List.cons_append] at hread ⊢
      rw [readItems_comma hafter hbefore hspace hclose hread, hreadOthers]
    · rw [Source.toItems] at hlist
      obtain ⟨_, _, hothers⟩ := exists_ok_of_bind hlist
      obtain ⟨rest, hrest, -⟩ := exists_ok_of_bind hothers
      exact hitems level rest hrest
  | @field key between before text name hkey hbetween hbefore h ih =>
    intro hfuel
    obtain ⟨fuel, rfl⟩ := Nat.exists_eq_add_one.mpr (Nat.lt_of_lt_of_le (by simp) hfuel)
    obtain ⟨source, hread, hsource⟩ := ih fuel (by simp at hfuel; omega)
    have hliteral := hkey.readLiteral_eq (between ++ ':' :: before ++ text)
      (show key.length < fuel by simp at hfuel; omega)
    refine ⟨[({ decoded := .ok name }, source)], some .truncated, ?_,
      fun level done list hlist ↦ ?_⟩
    · simp only [List.append_assoc, List.cons_append] at hliteral ⊢
      simp only [readFields, hliteral, skipSpace_blank hbetween, readValue_blank hbefore, hread,
        skipSpace_colon]
    · rw [Source.toFields] at hlist
      obtain ⟨_, _, hvalue⟩ := exists_ok_of_bind hlist
      obtain ⟨v, hv, -⟩ := exists_ok_of_bind hvalue
      exact hsource level v hv
  | @laterField key between before text after gap others name v hkey hbetween hbefore hafter hgap hv
      h ih =>
    intro hfuel
    obtain ⟨fuel, rfl⟩ := Nat.exists_eq_add_one.mpr (Nat.lt_of_lt_of_le (by simp) hfuel)
    obtain ⟨fields, ending, hreadOthers, hfields⟩ := ih fuel (by simp at hfuel; omega)
    have hread := hv.read fuel (after ++ ',' :: gap ++ others) (by simp at hfuel; omega) (by
      simpa using endsNumber_blank hafter (endsNumber_comma (gap ++ others)))
    obtain ⟨c, tail, rfl, hspace, -, -⟩ := h.head
    refine ⟨({ decoded := .ok name }, .ofJson v) :: fields, ending, ?_,
      fun level done list hlist ↦ ?_⟩
    · simp only [List.append_assoc, List.cons_append] at hread ⊢
      rw [readFields_comma hkey.isLiteral (by simp at hfuel; omega) hbetween hbefore hafter hgap
        hspace hread, hreadOthers]
    · rw [Source.toFields] at hlist
      obtain ⟨_, _, hvalue⟩ := exists_ok_of_bind hlist
      obtain ⟨_, _, hothers⟩ := exists_ok_of_bind hvalue
      exact hfields level _ list hothers

/-- A text that lacks a value is not read, wherever in it the value is missing. -/
theorem exists_read_of_lacks {before text : List Char} (hbefore : IsBlank before)
    (h : Lacks text .value) : ∃ flaw, read (before ++ text) = .error flaw := by
  obtain ⟨source, hread, hsource⟩ := h.stops (2 * (before ++ text).length + 4) (by simp; omega)
  rw [← readValue_blank hbefore] at hread
  cases hvalue : source.toJson 0 with
  | ok v => exact absurd hvalue (hsource 0 v)
  | error flaw =>
    refine ⟨flaw, ?_⟩
    rw [read, readDocument, hread, hvalue]
    rfl

end Errand.Json
