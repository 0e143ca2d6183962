import Errand.Prompt.Texts
import Errand.Proofs.Text.Classes

/-!
# What a filled template holds

A template is a literal text, and then places, each with the literal text after it: its `Layout`.
No two places overlap, because a brace is no word character, so there is one way only to tell them
from the literal texts (`describes_iff`), and it does not depend on what is put into them.
`fillChars_eq_filled` says that filling keeps the literal texts and puts a value into each place.

A line feed stands in no place, so the places of the prompts are found line by line (`names_lines`).
`fill_once` takes this together. Whatever is told to a model, the texts of the template stand around
it as they are.
-/

set_option autoImplicit false

namespace Errand.Prompt

open Text (isWord)

/-! ### Places -/

/-- Whether a text can be the name of a place. -/
def IsName (name : List Char) : Prop :=
  name ≠ [] ∧ ∀ c ∈ name, isWord c

/-- A place as a template shows it. -/
def placeText (name : List Char) : List Char :=
  '\x7b' :: name ++ ['\x7d']

/-- Whether no place stands in a text. -/
def IsPlain (text : List Char) : Prop :=
  ∀ name, IsName name → ¬ placeText name <:+: text

theorem not_isWord_open : isWord '\x7b' = false := by
  decide

theorem not_isWord_close : isWord '\x7d' = false := by
  decide

theorem IsName.notMem {name : List Char} (h : IsName name) {c : Char} (hc : isWord c = false) :
    c ∉ name :=
  fun hmem ↦ Bool.false_ne_true (hc.symm.trans (h.2 c hmem))

/-- A text begins with a name and a closing brace if and only if this is what is found. -/
theorem placeName?_eq_some_iff {text name rest : List Char} :
    placeName? text = some (name, rest) ↔ IsName name ∧ text = name ++ '\x7d' :: rest := by
  constructor
  · intro h
    have hsplit := List.takeWhile_append_dropWhile (p := isWord) (l := text)
    simp only [placeName?] at h
    split at h
    · next hclose =>
      split at h
      · cases h
      · next hname =>
        cases h
        rw [hclose] at hsplit
        refine ⟨⟨by simpa using hname, fun c hc ↦ List.mem_takeWhile_imp hc⟩, hsplit.symm⟩
    · cases h
  · rintro ⟨hname, rfl⟩
    have hends : ∀ c ∈ ('\x7d' :: rest).head?, isWord c = false := by simp [not_isWord_close]
    have htake := Text.takeWhile_append_of_head hname.2 hends
    have hdrop : (name ++ '\x7d' :: rest).dropWhile isWord = '\x7d' :: rest := by
      rw [List.dropWhile_append_of_pos hname.2, Text.dropWhile_eq_self hends]
    simp [placeName?, htake, hdrop, hname.1]

theorem isPlain_nil : IsPlain [] := by
  intro name _ h
  simp [placeText] at h

theorem IsPlain.of_suffix {text rest : List Char} (h : IsPlain text) (hrest : rest <:+ text) :
    IsPlain rest :=
  fun name hname hplace ↦ h name hname (hplace.trans hrest.isInfix)

/-- One more character makes a place only where an opening brace comes before a name. -/
theorem isPlain_cons_iff {c : Char} {text : List Char} :
    IsPlain (c :: text) ↔ IsPlain text ∧ (c = '\x7b' → placeName? text = none) := by
  constructor
  · intro h
    refine ⟨h.of_suffix (List.suffix_cons c text), ?_⟩
    rintro rfl
    rw [Option.eq_none_iff_forall_ne_some]
    rintro ⟨name, rest⟩ hplace
    obtain ⟨hname, rfl⟩ := placeName?_eq_some_iff.mp hplace
    refine h name hname (List.IsPrefix.isInfix ⟨rest, ?_⟩)
    simp [placeText]
  · rintro ⟨htext, hc⟩ name hname hplace
    rcases List.infix_cons_iff.mp hplace with hprefix | hinfix
    · obtain ⟨rest, hrest⟩ := hprefix
      simp only [placeText, List.cons_append, List.append_assoc, List.cons.injEq] at hrest
      have hfound := placeName?_eq_some_iff.mpr ⟨hname, hrest.2.symm⟩
      rw [hc hrest.1.symm] at hfound
      cases hfound
    · exact htext name hname hinfix

/-! ### Layouts -/

/-- A literal text, and places with the literal texts after them. -/
structure Layout where
  /-- The text before the first place. -/
  opening : List Char
  /-- The name of each place and the text after it. -/
  places : List (List Char × List Char)

namespace Layout

/-- The template that has a layout. -/
def text (layout : Layout) : List Char :=
  layout.opening ++ layout.places.flatMap fun place ↦ placeText place.1 ++ place.2

/-- Whether a layout tells all places of a template from the texts around them. -/
structure Describes (layout : Layout) (template : List Char) : Prop where
  text_eq : layout.text = template
  isName : ∀ place ∈ layout.places, IsName place.1
  isPlain_opening : IsPlain layout.opening
  isPlain_after : ∀ place ∈ layout.places, IsPlain place.2

/-- The names of the places, in order. -/
def names (layout : Layout) : List (List Char) :=
  layout.places.map Prod.fst

/-- The literal texts with one text after another put into the places. -/
def holding (layout : Layout) (inserted : List (List Char)) : List Char :=
  layout.opening ++ (List.zipWith (fun place text ↦ text ++ place.2) layout.places inserted).flatten

/-- What is put into a place: the value of the first entry with its name, or the place itself. -/
def valueOf (values : List (String × String)) (name : List Char) : List Char :=
  match values.find? fun entry ↦ entry.1.toList = name with
  | some (_, value) => value.toList
  | none => placeText name

/-- The literal texts with the values of the names put into the places. -/
def filled (layout : Layout) (values : List (String × String)) : List Char :=
  layout.holding (layout.names.map (valueOf values))

/-- A layout with a character before it, which may complete a place. -/
def cons (c : Char) (layout : Layout) : Layout :=
  if c = '\x7b' then
    match placeName? layout.opening with
    | some (name, rest) => ⟨[], (name, rest) :: layout.places⟩
    | none => ⟨c :: layout.opening, layout.places⟩
  else ⟨c :: layout.opening, layout.places⟩

/-- The layout of a template. -/
def of (template : List Char) : Layout :=
  template.foldr cons ⟨[], []⟩

@[simp] theorem of_nil : of [] = ⟨[], []⟩ := rfl

theorem of_cons (c : Char) (template : List Char) : of (c :: template) = cons c (of template) := rfl

theorem cons_of_plain {c : Char} {layout : Layout}
    (h : c = '\x7b' → placeName? layout.opening = none) :
    cons c layout = ⟨c :: layout.opening, layout.places⟩ := by
  unfold cons
  split
  · next hc => rw [h hc]
  · rfl

theorem text_place (name after : List Char) (places : List (List Char × List Char)) :
    text ⟨[], (name, after) :: places⟩ = placeText name ++ text ⟨after, places⟩ := by
  simp [text]

theorem text_cons_opening (c : Char) (opening : List Char)
    (places : List (List Char × List Char)) :
    text ⟨c :: opening, places⟩ = c :: text ⟨opening, places⟩ := rfl

/-- The layout of a template describes it. -/
theorem describes_of (template : List Char) : (of template).Describes template := by
  induction template with
  | nil => exact ⟨rfl, by simp, isPlain_nil, by simp⟩
  | cons c template ih =>
    rw [of_cons]
    by_cases hplace : c = '\x7b' ∧ placeName? (of template).opening ≠ none
    · obtain ⟨rfl, hsome⟩ := hplace
      obtain ⟨⟨name, rest⟩, hfound⟩ := Option.ne_none_iff_exists'.mp hsome
      obtain ⟨hname, hopening⟩ := placeName?_eq_some_iff.mp hfound
      have hrest : IsPlain rest :=
        ih.isPlain_opening.of_suffix ⟨name ++ ['\x7d'], by simp [hopening]⟩
      have hcons : cons '\x7b' (of template) = ⟨[], (name, rest) :: (of template).places⟩ := by
        simp [cons, hfound]
      rw [hcons]
      refine ⟨?_, ?_, isPlain_nil, ?_⟩
      · conv_rhs => rw [← ih.text_eq]
        simp [text, hopening, placeText]
      · simpa [hname] using ih.isName
      · simpa [hrest] using ih.isPlain_after
    · have hnone : c = '\x7b' → placeName? (of template).opening = none :=
        fun hc ↦ Classical.not_not.mp fun hne ↦ hplace ⟨hc, hne⟩
      rw [cons_of_plain hnone]
      refine ⟨?_, ih.isName, isPlain_cons_iff.mpr ⟨ih.isPlain_opening, hnone⟩, ih.isPlain_after⟩
      rw [text_cons_opening]
      exact congrArg _ ih.text_eq

/-- A literal text without places stays the opening of what comes before a place. -/
theorem of_plain_append {opening rest : List Char} (h : IsPlain opening)
    (hrest : (of rest).opening = []) : of (opening ++ rest) = ⟨opening, (of rest).places⟩ := by
  induction opening with
  | nil => exact congrArg (Layout.mk · _) hrest
  | cons c opening ih =>
    obtain ⟨hplain, hc⟩ := isPlain_cons_iff.mp h
    rw [List.cons_append, of_cons, ih hplain, cons_of_plain hc]

/-- A text in which nothing opens a place is passed over. -/
theorem of_append_of_notMem {front : List Char} (h : '\x7b' ∉ front) (rest : List Char) :
    of (front ++ rest) = ⟨front ++ (of rest).opening, (of rest).places⟩ := by
  induction front with
  | nil => rfl
  | cons c front ih =>
    obtain ⟨hc, hfront⟩ := not_or.mp (List.mem_cons.not.mp h)
    rw [List.cons_append, of_cons, ih hfront, cons_of_plain fun heq ↦ absurd heq.symm hc]
    rfl

/-- A place at the start of a template is the first place of its layout. -/
theorem of_place {name : List Char} (h : IsName name) (rest : List Char) :
    of (placeText name ++ rest) = ⟨[], (name, (of rest).opening) :: (of rest).places⟩ := by
  have hinside : '\x7b' ∉ name ++ ['\x7d'] := by
    simp [h.notMem not_isWord_open]
  have hfound : placeName? (name ++ '\x7d' :: (of rest).opening) =
      some (name, (of rest).opening) := placeName?_eq_some_iff.mpr ⟨h, rfl⟩
  rw [placeText, List.cons_append, List.cons_append, of_cons, of_append_of_notMem hinside]
  simp [cons, hfound]

/-- A layout is found again in its template. -/
theorem of_text {opening : List Char} {places : List (List Char × List Char)}
    (hname : ∀ place ∈ places, IsName place.1) (hopening : IsPlain opening)
    (hafter : ∀ place ∈ places, IsPlain place.2) :
    of (text ⟨opening, places⟩) = ⟨opening, places⟩ := by
  induction places generalizing opening with
  | nil =>
    have hnil : (of []).opening = [] := rfl
    have hof := of_plain_append hopening hnil
    simpa [text] using hof
  | cons place places ih =>
    obtain ⟨name, after⟩ := place
    simp only [List.forall_mem_cons] at hname hafter
    have hplace : of (text ⟨[], (name, after) :: places⟩) = ⟨[], (name, after) :: places⟩ := by
      rw [text_place, of_place hname.1, ih hname.2 hafter.1 hafter.2]
    have hof := of_plain_append hopening (congrArg Layout.opening hplace)
    rwa [hplace] at hof

/-- There is one way to tell the places of a template from the texts around them. -/
theorem describes_iff {layout : Layout} {template : List Char} :
    layout.Describes template ↔ layout = of template := by
  constructor
  · rintro ⟨rfl, hname, hopening, hafter⟩
    exact (of_text hname hopening hafter).symm
  · rintro rfl
    exact describes_of template

/-! ### Filling -/

theorem filled_place (values : List (String × String)) (name after : List Char)
    (places : List (List Char × List Char)) :
    filled ⟨[], (name, after) :: places⟩ values =
      valueOf values name ++ filled ⟨after, places⟩ values := by
  simp [filled, holding, names]

theorem filled_cons_opening (values : List (String × String)) (c : Char) (opening : List Char)
    (places : List (List Char × List Char)) :
    filled ⟨c :: opening, places⟩ values = c :: filled ⟨opening, places⟩ values := rfl

theorem valueOf_eq_lookup (values : List (String × String)) (name : List Char) :
    valueOf values name =
      match values.lookup (String.ofList name) with
      | some value => value.toList
      | none => '\x7b' :: name ++ ['\x7d'] := by
  have hfind : values.lookup (String.ofList name) =
      (values.find? fun entry ↦ entry.1.toList = name).map Prod.snd := by
    induction values with
    | nil => rfl
    | cons entry values ih =>
      obtain ⟨key, value⟩ := entry
      by_cases hkey : key.toList = name
      · subst hkey
        simp
      · have hne : (String.ofList name == key) = false := by
          rw [beq_eq_false_iff_ne]
          rintro rfl
          exact hkey String.toList_ofList
        simp [List.lookup_cons, hne, hkey, ih]
  rw [hfind, valueOf]
  cases values.find? fun entry ↦ entry.1.toList = name <;> rfl

end Layout

/-- Filling a template puts the values of the names into its places and keeps the texts around
them. -/
theorem fillChars_eq_filled (values : List (String × String)) (template : List Char) :
    fillChars values template = (Layout.of template).filled values := by
  induction template using fillChars.induct with
  | case1 => rw [fillChars]; rfl
  | case2 text name rest hfound ih =>
    obtain ⟨hname, rfl⟩ := placeName?_eq_some_iff.mp hfound
    have hof : Layout.of ('\x7b' :: (name ++ '\x7d' :: rest)) =
        ⟨[], (name, (Layout.of rest).opening) :: (Layout.of rest).places⟩ := by
      simpa [placeText] using Layout.of_place hname rest
    rw [hof, Layout.filled_place, Layout.valueOf_eq_lookup, ← ih, fillChars, if_pos rfl]
    split
    · next hplace =>
      rw [hfound] at hplace
      cases hplace
      rfl
    · next hplace =>
      rw [hfound] at hplace
      cases hplace
  | case3 text hfound ih =>
    have hopening : placeName? (Layout.of text).opening = none := by
      rw [Option.eq_none_iff_forall_ne_some]
      rintro ⟨name, rest⟩ hplace
      obtain ⟨hname, hrest⟩ := placeName?_eq_some_iff.mp hplace
      have htext := (Layout.describes_of text).text_eq
      rw [Layout.text, hrest, List.append_assoc, List.cons_append] at htext
      rw [placeName?_eq_some_iff.mpr ⟨hname, htext.symm⟩] at hfound
      cases hfound
    rw [Layout.of_cons, Layout.cons_of_plain fun _ ↦ hopening, Layout.filled_cons_opening, ← ih,
      fillChars, if_pos rfl, hfound]
  | case4 c text hc ih =>
    rw [Layout.of_cons, Layout.cons_of_plain fun h ↦ absurd h hc, Layout.filled_cons_opening, ← ih,
      fillChars, if_neg hc]

/-! ### Lines -/

/-- Whether a string is made of some characters. -/
def Consists (part : String) (text : List Char) : Prop :=
  part.toList = text

theorem consists_ofList (text : List Char) : Consists (String.ofList text) text :=
  String.toList_ofList

theorem Consists.append {front back : String} {text more : List Char} (hfront : Consists front text)
    (hback : Consists back more) : Consists (front ++ back) (text ++ more) := by
  rw [Consists, String.toList_append, hfront, hback]

/-- Behind a character that stands in no place the text adds nothing to a name before it. -/
theorem placeName?_append_cons {c : Char} (hword : isWord c = false) (hclose : c ≠ '\x7d')
    (text after : List Char) :
    placeName? (text ++ c :: after) =
      (placeName? text).map fun place ↦ (place.1, place.2 ++ c :: after) := by
  cases hfound : placeName? text with
  | some place =>
    obtain ⟨hname, rfl⟩ := placeName?_eq_some_iff.mp hfound
    exact placeName?_eq_some_iff.mpr ⟨hname, by simp⟩
  | none =>
    rw [Option.map_none, Option.eq_none_iff_forall_ne_some]
    rintro ⟨name, rest⟩ hplace
    obtain ⟨hname, htext⟩ := placeName?_eq_some_iff.mp hplace
    rcases List.append_eq_append_iff.mp htext with ⟨front, rfl, hfront⟩ | ⟨front, rfl, hfront⟩
    · cases front with
      | nil => exact hclose (List.cons.inj hfront).1
      | cons d front =>
        obtain ⟨rfl, -⟩ := List.cons.inj hfront
        exact hname.notMem hword (by simp)
    · cases front with
      | nil => exact hclose (List.cons.inj hfront).1.symm
      | cons d front =>
        obtain ⟨rfl, -⟩ := List.cons.inj hfront
        rw [placeName?_eq_some_iff.mpr ⟨hname, rfl⟩] at hfound
        cases hfound

namespace Layout

/-- Whether the opening of a layout is that of another, or that and more lines after it. -/
def Prolongs (long short : Layout) : Prop :=
  long.opening = short.opening ∨ ∃ after, long.opening = short.opening ++ '\n' :: after

/-- The same name, or none, is at the start of a text and of a text with more lines. -/
theorem Prolongs.placeName? {long short : Layout} (h : long.Prolongs short) :
    ∃ more : List Char → List Char, Prompt.placeName? long.opening =
      (Prompt.placeName? short.opening).map fun place ↦ (place.1, more place.2) := by
  rcases h with hopening | ⟨after, hopening⟩
  · exact ⟨id, by simp [hopening]⟩
  · refine ⟨(· ++ '\n' :: after), ?_⟩
    rw [hopening, placeName?_append_cons (by decide) (by decide)]

/-- A character before two layouts completes a place in both or in neither. -/
theorem Prolongs.cons {long short : Layout} (h : long.Prolongs short) (c : Char) :
    (long.cons c).Prolongs (short.cons c) ∧ ∃ here,
      (long.cons c).names = here ++ long.names ∧ (short.cons c).names = here ++ short.names := by
  have hplain (hlong : long.cons c = ⟨c :: long.opening, long.places⟩)
      (hshort : short.cons c = ⟨c :: short.opening, short.places⟩) :
      (long.cons c).Prolongs (short.cons c) ∧ ∃ here,
        (long.cons c).names = here ++ long.names ∧ (short.cons c).names = here ++ short.names := by
    rw [hlong, hshort]
    refine ⟨h.imp (congrArg (c :: ·)) ?_, [], rfl, rfl⟩
    rintro ⟨after, hafter⟩
    exact ⟨after, congrArg (c :: ·) hafter⟩
  by_cases hc : c = '\x7b'
  · subst hc
    obtain ⟨more, hmore⟩ := h.placeName?
    cases hfound : Prompt.placeName? short.opening with
    | none =>
      rw [hfound, Option.map_none] at hmore
      exact hplain (cons_of_plain fun _ ↦ hmore) (cons_of_plain fun _ ↦ hfound)
    | some place =>
      rw [hfound, Option.map_some] at hmore
      simp only [Layout.cons, hmore, hfound, if_pos]
      exact ⟨.inl rfl, [place.1], rfl, rfl⟩
  · exact hplain (cons_of_plain fun h ↦ absurd h hc) (cons_of_plain fun h ↦ absurd h hc)

/-- No place reaches over a line feed. -/
theorem prolongs_of_append (front back : List Char) :
    (of (front ++ '\n' :: back)).Prolongs (of front) ∧
      (of (front ++ '\n' :: back)).names = (of front).names ++ (of back).names := by
  induction front with
  | nil =>
    have hline : of ('\n' :: back) = ⟨'\n' :: (of back).opening, (of back).places⟩ := by
      rw [of_cons, cons_of_plain fun h ↦ absurd h (by decide)]
    rw [List.nil_append, hline]
    exact ⟨.inr ⟨(of back).opening, rfl⟩, rfl⟩
  | cons c front ih =>
    obtain ⟨hprolongs, here, hlong, hshort⟩ := ih.1.cons c
    refine ⟨hprolongs, ?_⟩
    rw [List.cons_append, of_cons, of_cons, hlong, hshort, ih.2, List.append_assoc]

/-- The places of lines are those of one line after another. -/
theorem names_lines (parts : List String) :
    (of (lines parts).toList).names = parts.flatMap fun part ↦ (of part.toList).names := by
  induction parts with
  | nil => rfl
  | cons part parts ih =>
    cases parts with
    | nil => simp [lines]
    | cons next parts =>
      have hlines : (lines (part :: next :: parts)).toList =
          part.toList ++ '\n' :: (lines (next :: parts)).toList := by
        simp [lines]
      rw [hlines, (prolongs_of_append _ _).2, ih]
      rfl

/-- The places of lines whose characters are known. -/
theorem names_lines_of_consists {parts : List String} {texts names : List (List Char)}
    (hlines : List.Forall₂ Consists parts texts)
    (hnames : texts.flatMap (fun text ↦ (of text).names) = names) :
    (of (lines parts).toList).names = names := by
  rw [names_lines, ← hnames]
  clear hnames
  induction hlines with
  | nil => rfl
  | cons hpart _ ih => rw [List.flatMap_cons, List.flatMap_cons, hpart, ih]

end Layout

/-- The places of the prompts. -/
theorem names_templates :
    (Layout.of plannerTemplate.toList).names =
        ["actor_id", "operations", "actor_id", "actor_id", "actor_id", "actor_id", "task"].map
          String.toList ∧
      (Layout.of solverTemplate.toList).names = ["task", "agent_response"].map String.toList ∧
      (Layout.of smartReplyTemplate.toList).names = ["conversation"].map String.toList := by
  refine ⟨?planner, ?solver, ?smartReply⟩
  all_goals
    simp only [plannerTemplate, solverTemplate, smartReplyTemplate]
    apply Layout.names_lines_of_consists
    case hlines =>
      repeat' first
        | exact List.Forall₂.nil
        | apply List.Forall₂.cons
        | with_reducible exact consists_ofList _
        | with_reducible apply Consists.append
    case hnames => decide

theorem toList_fill (template : String) (values : List (String × String)) :
    (fill template values).toList = (Layout.of template.toList).filled values := by
  rw [fill, String.toList_ofList, fillChars_eq_filled]

/-- A template is filled in one pass: there is one way to tell its places from the texts around
them, these texts stay, and each place holds the value of the first entry with its name or stays
itself. So the prompts keep what they say and where they show what they are about, whatever that
is. -/
theorem fill_once :
    (∀ template : String, ∃ layout : Layout,
        (∀ other : Layout, other.Describes template.toList ↔ other = layout) ∧
          ∀ values, (fill template values).toList = layout.filled values) ∧
      (∃ layout : Layout, layout.Describes plannerTemplate.toList ∧
        layout.names = ["actor_id", "operations", "actor_id", "actor_id", "actor_id", "actor_id",
          "task"].map String.toList ∧
        ∀ actor operations task, (planner actor operations task).toList =
          layout.holding ([actor, catalog operations, actor, actor, actor, actor, task].map
            String.toList)) ∧
      (∃ layout : Layout, layout.Describes solverTemplate.toList ∧
        layout.names = ["task", "agent_response"].map String.toList ∧
        ∀ task result, (solver task result).toList =
          layout.holding ([task, result.getD "null"].map String.toList)) ∧
      (∃ layout : Layout, layout.Describes smartReplyTemplate.toList ∧
        layout.names = ["conversation"].map String.toList ∧
        ∀ conversation, (smartReply conversation).toList =
          layout.holding ([conversation].map String.toList)) := by
  obtain ⟨hplanner, hsolver, hsmartReply⟩ := names_templates
  refine ⟨fun template ↦ ?_, ?_, ?_, ?_⟩
  · exact ⟨.of template.toList, fun other ↦ Layout.describes_iff, toList_fill template⟩
  · refine ⟨_, Layout.describes_of _, hplanner, fun actor operations task ↦ ?_⟩
    rw [planner, toList_fill, Layout.filled, hplanner]
    exact congrArg _ (by simp [Layout.valueOf])
  · refine ⟨_, Layout.describes_of _, hsolver, fun task result ↦ ?_⟩
    rw [solver, toList_fill, Layout.filled, hsolver]
    exact congrArg _ (by simp [Layout.valueOf])
  · refine ⟨_, Layout.describes_of _, hsmartReply, fun conversation ↦ ?_⟩
    rw [smartReply, toList_fill, Layout.filled, hsmartReply]
    exact congrArg _ (by simp [Layout.valueOf])

end Errand.Prompt
