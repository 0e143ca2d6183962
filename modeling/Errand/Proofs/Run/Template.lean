import Errand.Proofs.Json.Reading
import Errand.Proofs.Run.Resolving

/-!
# Templates with holes

A template is JSON text in which step ids stand in the places of some values. `Template ids text
piece` says so of a text and of a value with holes. No string of the text and no key has one of
`ids` in it, and no hole begins with one of them unless it is that id.

Outputs are put into a template without mixing up its parts, since the marks, quotes and blanks
between them are in no step id. By induction on the template, its text then spells the value with
every hole filled (`Template.spells`). If a hole has no output, a mark is left where a value should
be, so the text lacks a value (`Template.lacks`).
-/

set_option autoImplicit false

namespace Errand.Json

open Results (IsClean Separates resolveText resolveText_append_blank resolveText_append_cons
  resolveText_blank_append resolveText_cons resolveText_nil separates_of_isSpace)

/-! ### Values with holes -/

/-- A value with step ids in the places of some values. -/
inductive Form
  /-- A value without holes. -/
  | known (v : Json)
  /-- The place of an output. -/
  | hole (id : String)
  | arr (items : List Form)
  | obj (fields : List (String × Form))

namespace Form

mutual

/-- The step ids in the holes. -/
def holes : Form → List String
  | .known _ => []
  | .hole id => [id]
  | .arr items => itemHoles items
  | .obj fields => fieldHoles fields

/-- The step ids in the holes of items. -/
def itemHoles : List Form → List String
  | [] => []
  | item :: rest => holes item ++ itemHoles rest

/-- The step ids in the holes of fields. -/
def fieldHoles : List (String × Form) → List String
  | [] => []
  | (_, form) :: rest => holes form ++ fieldHoles rest

end

variable (value : String → Json)

mutual

/-- The value that comes of filling every hole. -/
def fill : Form → Json
  | .known v => v
  | .hole id => value id
  | .arr items => .arr (fillItems items)
  | .obj fields => .obj (fillFields fields)

/-- Items with every hole filled. -/
def fillItems : List Form → List Json
  | [] => []
  | item :: rest => fill item :: fillItems rest

/-- Fields with every hole filled. -/
def fillFields : List (String × Form) → List (String × Json)
  | [] => []
  | (key, form) :: rest => (key, fill form) :: fillFields rest

end

/-- A part of a value with holes that a text may spell. -/
inductive Piece
  /-- A value. -/
  | value (form : Form)
  /-- The items of an array, at least one. -/
  | items (items : List Form)
  /-- The fields of an object, at least one. -/
  | fields (fields : List (String × Form))

namespace Piece

/-- The step ids in the holes. -/
def holes : Piece → List String
  | .value form => form.holes
  | .items list => itemHoles list
  | .fields list => fieldHoles list

/-- The part with every hole filled. -/
def fill : Piece → Json.Piece
  | .value form => .value (form.fill value)
  | .items list => .items (fillItems value list)
  | .fields list => .fields (fillFields value list)

/-- What kind of a part it is. -/
def kind : Piece → Kind
  | .value _ => .value
  | .items _ => .items
  | .fields _ => .fields

end Piece

end Form

/-- The texts that spell a part of a value with holes. -/
inductive Template (ids : List String) : List Char → Form.Piece → Prop
  /-- JSON text without a mark. -/
  | plain {text : List Char} {v : Json} (hmark : '#' ∉ text) (h : Spells text (.value v)) :
      Template ids text (.value (.known v))
  | str {text : List Char} {s : String} (hs : SpellsChars text s.toList)
      (hclean : ∀ id ∈ ids, Text.contains id.toList text = false) :
      Template ids ('"' :: text ++ ['"']) (.value (.known (.str s)))
  | hole {id : String} (hid : Plan.IsStepId id.toList)
      (hown : ∀ other ∈ ids, other.toList <+: id.toList → other = id) :
      Template ids id.toList (.value (.hole id))
  | arr {before text : List Char} {items : List Form} (hbefore : IsBlank before)
      (hitems : Template ids text (.items items)) :
      Template ids ('[' :: before ++ text ++ [']']) (.value (.arr items))
  | obj {before text : List Char} {fields : List (String × Form)} (hbefore : IsBlank before)
      (hfields : Template ids text (.fields fields)) :
      Template ids ('{' :: before ++ text ++ ['}']) (.value (.obj fields))
  /-- The last item. -/
  | item {text after : List Char} {form : Form} (hafter : IsBlank after)
      (hform : Template ids text (.value form)) : Template ids (text ++ after) (.items [form])
  /-- An item and others after a comma. -/
  | itemsCons {text after before others : List Char} {form : Form} {items : List Form}
      (hafter : IsBlank after) (hbefore : IsBlank before) (hform : Template ids text (.value form))
      (hitems : Template ids others (.items items)) :
      Template ids (text ++ after ++ ',' :: before ++ others) (.items (form :: items))
  /-- The last field. -/
  | field {key between before text after : List Char} {name : String} {form : Form}
      (hkey : SpellsChars key name.toList)
      (hclean : ∀ id ∈ ids, Text.contains id.toList key = false) (hbetween : IsBlank between)
      (hbefore : IsBlank before) (hafter : IsBlank after)
      (hform : Template ids text (.value form)) :
      Template ids ('"' :: key ++ '"' :: between ++ ':' :: before ++ text ++ after)
        (.fields [(name, form)])
  /-- A field and others after a comma. -/
  | fieldsCons {key between before text after gap others : List Char} {name : String} {form : Form}
      {fields : List (String × Form)} (hkey : SpellsChars key name.toList)
      (hclean : ∀ id ∈ ids, Text.contains id.toList key = false) (hbetween : IsBlank between)
      (hbefore : IsBlank before) (hafter : IsBlank after) (hgap : IsBlank gap)
      (hform : Template ids text (.value form)) (hfields : Template ids others (.fields fields)) :
      Template ids
        ('"' :: key ++ '"' :: between ++ ':' :: before ++ text ++ after ++ ',' :: gap ++ others)
        (.fields ((name, form) :: fields))

/-- The texts that spell a value with holes, with blanks around it. -/
def IsTemplate (ids : List String) (template : List Char) (form : Form) : Prop :=
  ∃ before text after, IsBlank before ∧ IsBlank after ∧ Template ids text (.value form) ∧
    template = before ++ text ++ after

/-! ### Putting outputs into the parts of a template -/

section Parts

variable {entries : List (String × String)} {text key between before after others : List Char}

theorem separates_of_blank {blank : List Char} (hblank : IsBlank blank) :
    ∀ c ∈ blank, Separates c :=
  fun c hc ↦ separates_of_isSpace (hblank c hc)

/-- The marks of JSON are in no step id. -/
theorem separates_of_mem {c : Char} (hc : c ∈ ['"', ':', ',', '[', ']', '{', '}']) :
    Separates c := by
  unfold Separates
  simp only [List.mem_cons, List.not_mem_nil, or_false] at hc
  rcases hc with rfl | rfl | rfl | rfl | rfl | rfl | rfl <;> decide +kernel

/-- Outputs are put into what stands between two marks around a container. -/
theorem resolveText_enclosed (hclean : IsClean entries) {opening closing : Char}
    (hopening : Separates opening) (hclosing : Separates closing) (hbefore : IsBlank before) :
    resolveText entries (opening :: before ++ text ++ [closing]) =
      opening :: before ++ resolveText entries text ++ [closing] := by
  have hfront : resolveText entries (opening :: before ++ text) =
      opening :: before ++ resolveText entries text := by
    rw [List.cons_append, resolveText_cons hclean.ids hopening,
      resolveText_blank_append hclean.ids (separates_of_blank hbefore), List.cons_append]
  rw [resolveText_append_cons hclean.ids hclosing, hfront, resolveText_nil hclean.ids]

/-- Outputs are put into what stands before a comma and into what stands after it. -/
theorem resolveText_comma (hclean : IsClean entries) (hafter : IsBlank after)
    (hbefore : IsBlank before) :
    resolveText entries (text ++ after ++ ',' :: before ++ others) =
      resolveText entries text ++ after ++ ',' :: before ++ resolveText entries others := by
  have hcomma : Separates ',' := separates_of_mem (by simp)
  rw [List.append_assoc, List.cons_append, resolveText_append_cons hclean.ids hcomma,
    resolveText_append_blank hclean.ids (separates_of_blank hafter),
    resolveText_blank_append hclean.ids (separates_of_blank hbefore)]
  simp

/-- Outputs are put into the value of a field and not into its key. -/
theorem resolveText_field (hclean : IsClean entries)
    (hkey : ∀ id ∈ Entries.names entries, Text.contains id.toList key = false)
    (hbetween : IsBlank between) (hbefore : IsBlank before) :
    resolveText entries ('"' :: key ++ '"' :: between ++ ':' :: before ++ text) =
      '"' :: key ++ '"' :: between ++ ':' :: before ++ resolveText entries text := by
  have hname : resolveText entries key = key := Results.resolveText_of_contains hkey
  have hvalue : resolveText entries (':' :: before ++ text) =
      ':' :: before ++ resolveText entries text := by
    rw [List.cons_append, resolveText_cons hclean.ids (separates_of_mem (by simp)),
      resolveText_blank_append hclean.ids (separates_of_blank hbefore), List.cons_append]
  rw [List.append_assoc, List.append_assoc, List.cons_append, List.cons_append,
    resolveText_cons hclean.ids (separates_of_mem (by simp)),
    resolveText_append_cons hclean.ids (separates_of_mem (by simp)), hname,
    resolveText_blank_append hclean.ids (separates_of_blank hbetween), hvalue]
  simp

end Parts

/-! ### What comes of a template -/

namespace Template

variable {entries : List (String × String)} {text : List Char} {piece : Form.Piece}
  {value : String → Json}

/-- If every hole has an output, the text spells the value with every hole filled. -/
theorem spells (h : Template (Entries.names entries) text piece) (hclean : IsClean entries)
    (hvalue : ∀ entry ∈ entries, Spells entry.2.toList (.value (value entry.1)))
    (hholes : ∀ id ∈ piece.holes, (entries.lookup id).isSome) :
    Spells (resolveText entries text) (piece.fill value) := by
  induction h with
  | plain hmark h =>
    rw [Results.resolveText_of_notMem hclean.ids hmark]
    exact h
  | @str text s hs hkept =>
    have hname : resolveText entries text = text := Results.resolveText_of_contains hkept
    have hquotes := @resolveText_enclosed entries text [] hclean '"' '"'
      (separates_of_mem (by simp)) (separates_of_mem (by simp)) isBlank_nil
    simp only [hname, List.cons_append, List.nil_append] at hquotes
    rw [List.cons_append, hquotes]
    exact .str hs
  | @hole id hid hown =>
    obtain ⟨output, houtput⟩ := Option.isSome_iff_exists.mp (hholes id List.mem_cons_self)
    rw [Results.resolveText_hole hclean hid hown, houtput]
    obtain ⟨front, back, hentries, -⟩ := List.lookup_eq_some_iff.mp houtput
    exact hvalue (id, output) (by simp [hentries])
  | arr hbefore _ ih =>
    rw [resolveText_enclosed hclean (separates_of_mem (by simp)) (separates_of_mem (by simp))
      hbefore]
    exact .arr hbefore (ih hholes)
  | obj hbefore _ ih =>
    rw [resolveText_enclosed hclean (separates_of_mem (by simp)) (separates_of_mem (by simp))
      hbefore]
    exact .obj hbefore (ih hholes)
  | item hafter _ ih =>
    rw [Results.resolveText_append_blank hclean.ids (separates_of_blank hafter)]
    exact .item hafter (ih fun id hid ↦ hholes id (List.mem_append_left _ hid))
  | itemsCons hafter hbefore _ _ ih ihItems =>
    rw [resolveText_comma hclean hafter hbefore]
    refine .itemsCons hafter hbefore (ih fun id hid ↦ hholes id ?_)
      (ihItems fun id hid ↦ hholes id ?_)
    · exact List.mem_append_left _ hid
    · exact List.mem_append_right _ hid
  | field hkey hkept hbetween hbefore hafter _ ih =>
    rw [Results.resolveText_append_blank hclean.ids (separates_of_blank hafter),
      resolveText_field hclean hkept hbetween hbefore]
    exact .field hkey hbetween hbefore hafter
      (ih fun id hid ↦ hholes id (List.mem_append_left _ hid))
  | fieldsCons hkey hkept hbetween hbefore hafter hgap _ _ ih ihFields =>
    rw [resolveText_comma hclean hafter hgap, resolveText_field hclean hkept hbetween hbefore]
    refine .fieldsCons hkey hbetween hbefore hafter hgap (ih fun id hid ↦ hholes id ?_)
      (ihFields fun id hid ↦ hholes id ?_)
    · exact List.mem_append_left _ hid
    · exact List.mem_append_right _ hid

/-- What is missing from two lists together is missing from the first, or from the second only. -/
theorem missing_append {p : String → Prop} {first rest : List String}
    (h : ∃ id ∈ first ++ rest, ¬ p id) :
    (∃ id ∈ first, ¬ p id) ∨ (∀ id ∈ first, p id) ∧ ∃ id ∈ rest, ¬ p id := by
  by_cases hfirst : ∃ id ∈ first, ¬ p id
  · exact .inl hfirst
  · obtain ⟨id, hid, hmissing⟩ := h
    rcases List.mem_append.mp hid with hid | hid
    · exact .inl ⟨id, hid, hmissing⟩
    · exact .inr ⟨fun other hother ↦ not_not.mp fun hlost ↦ hfirst ⟨other, hother, hlost⟩,
        id, hid, hmissing⟩

theorem missing_append_nil {p : String → Prop} {first : List String}
    (h : ∃ id ∈ first ++ [], ¬ p id) : ∃ id ∈ first, ¬ p id := by
  simpa using h

/-- If some hole has no output, a mark is left where a value should be. The induction stops at the
first such hole; all parts before it spell what they should. -/
theorem lacks (h : Template (Entries.names entries) text piece) (hclean : IsClean entries)
    (hvalue : ∀ entry ∈ entries, Spells entry.2.toList (.value (value entry.1)))
    (hholes : ∃ id ∈ piece.holes, ¬ (entries.lookup id).isSome) :
    Lacks (resolveText entries text) piece.kind := by
  induction h with
  | plain | str =>
    obtain ⟨id, hid, -⟩ := hholes
    cases hid
  | @hole id hid hown =>
    obtain ⟨other, hother, hmissing⟩ := hholes
    obtain rfl : other = id := List.mem_singleton.mp hother
    have hresolved := Results.resolveText_hole hclean hid hown
    obtain ⟨digits, -, -, hdigits⟩ := hid
    rw [hresolved, Option.not_isSome_iff_eq_none.mp hmissing, Option.getD_none, hdigits]
    exact .mark _
  | arr hbefore _ ih =>
    rw [resolveText_enclosed hclean (separates_of_mem (by simp)) (separates_of_mem (by simp))
      hbefore]
    exact (Lacks.arr hbefore (ih hholes)).append _
  | obj hbefore _ ih =>
    rw [resolveText_enclosed hclean (separates_of_mem (by simp)) (separates_of_mem (by simp))
      hbefore]
    exact (Lacks.obj hbefore (ih hholes)).append _
  | item hafter _ ih =>
    rw [resolveText_append_blank hclean.ids (separates_of_blank hafter)]
    exact (Lacks.item (ih (missing_append_nil hholes))).append _
  | itemsCons hafter hbefore hform _ ih ihItems =>
    rw [resolveText_comma hclean hafter hbefore]
    rcases missing_append hholes with hfirst | ⟨hfirst, hrest⟩
    · rw [List.append_assoc, List.append_assoc]
      exact (Lacks.item (ih hfirst)).append _
    · exact .laterItem hafter hbefore (hform.spells hclean hvalue hfirst) (ihItems hrest)
  | field hkey hkept hbetween hbefore hafter _ ih =>
    rw [resolveText_append_blank hclean.ids (separates_of_blank hafter),
      resolveText_field hclean hkept hbetween hbefore]
    exact (Lacks.field hkey hbetween hbefore (ih (missing_append_nil hholes))).append _
  | fieldsCons hkey hkept hbetween hbefore hafter hgap hform _ ih ihFields =>
    rw [resolveText_comma hclean hafter hgap, resolveText_field hclean hkept hbetween hbefore]
    rcases missing_append hholes with hfirst | ⟨hfirst, hrest⟩
    · rw [List.append_assoc _ _ (_ :: _), List.append_assoc]
      exact (Lacks.field hkey hbetween hbefore (ih hfirst)).append _
    · exact .laterField hkey hbetween hbefore hafter hgap (hform.spells hclean hvalue hfirst)
        (ihFields hrest)

end Template

/-! ### Whole templates -/

section Whole

variable {entries : List (String × String)} {template : List Char} {form : Form}
  {value : String → Json}

/-- A template whose holes all have outputs is read as the value with every hole filled. -/
theorem IsTemplate.read_resolveText (h : IsTemplate (Entries.names entries) template form)
    (hclean : IsClean entries)
    (hvalue : ∀ entry ∈ entries, Spells entry.2.toList (.value (value entry.1)))
    (hholes : ∀ id ∈ form.holes, (entries.lookup id).isSome)
    (hkeys : (form.fill value).HasDistinctKeys)
    (hdepth : (form.fill value).depth ≤ Source.maxDepth) :
    read (resolveText entries template) = .ok (form.fill value) := by
  obtain ⟨before, text, after, hbefore, hafter, htemplate, rfl⟩ := h
  rw [resolveText_append_blank hclean.ids (separates_of_blank hafter),
    resolveText_blank_append hclean.ids (separates_of_blank hbefore)]
  exact read_of_spells hbefore hafter (htemplate.spells hclean hvalue hholes) hkeys hdepth

/-- A template with a hole that has no output is not read. -/
theorem IsTemplate.exists_read_resolveText (h : IsTemplate (Entries.names entries) template form)
    (hclean : IsClean entries)
    (hvalue : ∀ entry ∈ entries, Spells entry.2.toList (.value (value entry.1)))
    (hholes : ∃ id ∈ form.holes, ¬ (entries.lookup id).isSome) :
    ∃ flaw, read (resolveText entries template) = .error flaw := by
  obtain ⟨before, text, after, hbefore, hafter, htemplate, rfl⟩ := h
  rw [resolveText_append_blank hclean.ids (separates_of_blank hafter),
    resolveText_blank_append hclean.ids (separates_of_blank hbefore), List.append_assoc]
  exact exists_read_of_lacks hbefore ((htemplate.lacks hclean hvalue hholes).append after)

end Whole

end Errand.Json
