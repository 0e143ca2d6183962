import Errand.Plan.Parser
import Errand.Proofs.Text.Braces
import Errand.Proofs.Text.Takes

/-!
# The parts of a unit

`Parts` are the texts that the parts of the pattern of units take, and `Parts.IsUnit` says of each
which texts they are. `exists_parts_of_takes` is the soundness of the pattern: what it takes is the
text of such parts, and its marks stand where the parts begin and end. The pattern of parameters
takes the groups of braces with at most one further level in them (`takes_parameters_iff`).
-/

set_option autoImplicit false

namespace Errand.Plan

open Text Text.Pattern

/-! ### The pattern of parameters -/

theorem noBrace_iff {taken marks text} : noBrace.Takes taken marks text ↔
    ∃ c, (c ≠ '{' ∧ c ≠ '}') ∧ taken = [c] ∧ marks = [] := by
  simp [noBrace, takes_one_iff]

theorem manyNoBrace_iff {taken marks text} : (Pattern.many noBrace).Takes taken marks text ↔
    (∀ c ∈ taken, c ≠ '{' ∧ c ≠ '}') ∧ marks = [] := by
  simp [noBrace, takes_many_one_iff]

/-- A group without groups in it. -/
def flatGroup : Pattern :=
  all [char '{', .many noBrace, char '}']

theorem flatGroup_iff {taken marks text} : flatGroup.Takes taken marks text ↔
    ∃ inner, (∀ c ∈ inner, c ≠ '{' ∧ c ≠ '}') ∧ taken = '{' :: inner ++ ['}'] ∧ marks = [] := by
  simp only [flatGroup, all, takes_seq_iff, takes_char_iff, manyNoBrace_iff]
  constructor
  · rintro ⟨_, _, _, _, rfl, rfl, ⟨rfl, rfl⟩, inner, _, _, _, rfl, rfl, ⟨hinner, rfl⟩, rfl, rfl⟩
    exact ⟨inner, hinner, rfl, rfl⟩
  · rintro ⟨inner, hinner, rfl, rfl⟩
    exact ⟨['{'], inner ++ ['}'], [], [], rfl, rfl, ⟨rfl, rfl⟩, inner, ['}'], [], [], rfl, rfl,
      ⟨hinner, rfl⟩, rfl, rfl⟩

/-- What stands in a group, in front of its closing brace. -/
def groupContent : Pattern :=
  .many (.either noBrace flatGroup)

/-- Content keeps the depth. -/
theorem closes_of_groupContent {taken marks text} (h : groupContent.Takes taken marks text) :
    marks = [] ∧ ∀ rest, Closes 2 1 rest → Closes 2 1 (taken ++ rest) := by
  refine Takes.many_induction h ⟨rfl, fun rest hrest ↦ hrest⟩ fun hp ⟨hmarks, hcontent⟩ ↦ ?_
  subst hmarks
  rcases takes_either_iff.mp hp with hp | hp
  · obtain ⟨c, hc, rfl, rfl⟩ := noBrace_iff.mp hp
    exact ⟨rfl, fun rest hrest ↦ (closes_plain hc.1 hc.2).mpr (hcontent rest hrest)⟩
  · obtain ⟨inner, hinner, rfl, rfl⟩ := flatGroup_iff.mp hp
    refine ⟨rfl, fun rest hrest ↦ ?_⟩
    rw [List.append_assoc, List.cons_append, List.cons_append, List.append_assoc, closes_open,
      closes_append hinner, List.singleton_append, closes_close]
    exact ⟨by omega, hcontent rest hrest⟩

/-- What comes back from depth two leaves a flat group behind. -/
theorem exists_flat_of_closes {text : List Char} (h : Closes 2 2 text) :
    ∃ inner rest, (∀ c ∈ inner, c ≠ '{' ∧ c ≠ '}') ∧ text = inner ++ '}' :: rest ∧
      Closes 2 1 rest := by
  induction text with
  | nil => exact h.elim
  | cons c text ih =>
    by_cases hopen : c = '{'
    · subst hopen
      exact absurd (closes_open.mp h).1 (by omega)
    · by_cases hclose : c = '}'
      · subst hclose
        exact ⟨[], text, by simp, rfl, closes_close.mp h⟩
      · rw [closes_plain hopen hclose] at h
        obtain ⟨inner, rest, hinner, rfl, hrest⟩ := ih h
        exact ⟨c :: inner, rest, by simpa [hopen, hclose] using hinner, rfl, hrest⟩

/-- What closes a group is content and a closing brace. -/
theorem exists_groupContent_of_closes {text : List Char} (h : Closes 2 1 text) (after : List Char) :
    ∃ taken, text = taken ++ ['}'] ∧ groupContent.Takes taken [] after := by
  induction hlength : text.length using Nat.strongRecOn generalizing text with
  | ind length ih =>
    subst hlength
    cases text with
    | nil => exact h.elim
    | cons c text =>
      by_cases hopen : c = '{'
      · subst hopen
        obtain ⟨inner, rest, hinner, rfl, hrest⟩ := exists_flat_of_closes (closes_open.mp h).2
        obtain ⟨taken, rfl, htaken⟩ := ih _ (by simp; omega) hrest rfl
        refine ⟨('{' :: inner ++ ['}']) ++ taken, by simp, ?_⟩
        exact .manyCons (by simp) (.right (flatGroup_iff.mpr ⟨inner, hinner, rfl, rfl⟩)) htaken
      · by_cases hclose : c = '}'
        · subst hclose
          obtain rfl := closes_zero.mp (closes_close.mp h)
          exact ⟨[], rfl, .manyNil⟩
        · rw [closes_plain hopen hclose] at h
          obtain ⟨taken, rfl, htaken⟩ := ih _ (by simp) h rfl
          refine ⟨[c] ++ taken, rfl, ?_⟩
          exact .manyCons (by simp) (.left (noBrace_iff.mpr ⟨c, ⟨hopen, hclose⟩, rfl, rfl⟩)) htaken

/-- The pattern of parameters takes the groups with at most one further level in them. -/
theorem takes_parameters_iff {taken marks text} :
    parameters.Takes taken marks text ↔ IsGroup 2 taken ∧ marks = [] := by
  change (Pattern.seq (char '{') (.seq groupContent (char '}'))).Takes taken marks text ↔ _
  simp only [takes_seq_iff, takes_char_iff]
  constructor
  · rintro ⟨_, _, _, _, rfl, rfl, ⟨rfl, rfl⟩, content, _, _, _, rfl, rfl, hcontent, rfl, rfl⟩
    obtain ⟨rfl, hcloses⟩ := closes_of_groupContent hcontent
    exact ⟨⟨content ++ ['}'], rfl, hcloses ['}'] (closes_close.mpr (closes_zero.mpr rfl))⟩, rfl⟩
  · rintro ⟨⟨inner, rfl, hinner⟩, rfl⟩
    obtain ⟨content, rfl, hcontent⟩ := exists_groupContent_of_closes hinner (['}'] ++ text)
    exact ⟨['{'], content ++ ['}'], [], [], rfl, rfl, ⟨rfl, rfl⟩, content, ['}'], [], [], rfl, rfl,
      hcontent, rfl, rfl⟩

/-! ### Texts of the parts -/

/-- A text of blanks. -/
def IsBlanks (text : List Char) : Prop :=
  ∀ c ∈ text, isBlank c

theorem isBlanks_nil : IsBlanks [] := by
  simp [IsBlanks]

theorem isBlanks_space : IsBlanks [' '] := by
  simp [IsBlanks, isBlank]

theorem isBlanks_line : IsBlanks ['\n'] := by
  simp [IsBlanks, isBlank]

/-- A text of digits. -/
def IsDigits (text : List Char) : Prop :=
  ∀ c ∈ text, isDigit c

instance (text : List Char) : Decidable (IsDigits text) :=
  decidable_of_iff _ List.all_eq_true

/-- A given word, or nothing. -/
def IsOptional (word : String) (text : List Char) : Prop :=
  text = [] ∨ text = word.toList

/-- A step id: `#E` and digits. -/
def IsStepId (text : List Char) : Prop :=
  ∃ digits, digits ≠ [] ∧ IsDigits digits ∧ text = '#' :: 'E' :: digits

/-- A name: word characters, one at least. -/
def IsName (text : List Char) : Prop :=
  text ≠ [] ∧ ∀ c ∈ text, isWord c

instance (text : List Char) : Decidable (IsName text) :=
  decidable_of_iff (text ≠ [] ∧ text.all isWord) (and_congr_right' List.all_eq_true)

/-- A heading that begins with `##`. -/
def IsMarkedHeading (text : List Char) : Prop :=
  ∃ gap gap' digits colon, IsBlanks gap ∧ IsBlanks gap' ∧ IsDigits digits ∧ IsOptional ":" colon ∧
    text = '#' :: '#' :: gap ++ "Plan".toList ++ gap' ++ digits ++ colon

/-- A heading that begins with `Plan`. -/
def IsPlainHeading (text : List Char) : Prop :=
  ∃ gap digits, IsBlanks gap ∧ IsDigits digits ∧ text = "Plan".toList ++ gap ++ digits ++ [':']

/-- What may stand between a heading and a title. -/
def IsMarkup (text : List Char) : Prop :=
  ∃ gap open' word close gap', IsBlanks gap ∧ IsOptional "**" open' ∧ IsOptional "Plan:" word ∧
    IsOptional "**" close ∧ IsBlanks gap' ∧ text = gap ++ open' ++ word ++ close ++ gap'

/-- What stands between a step id and an operation. -/
def IsEquals (text : List Char) : Prop :=
  ∃ gap sign gap', IsBlanks gap ∧ IsOptional "=" sign ∧ IsBlanks gap' ∧ text = gap ++ sign ++ gap'

/-- The parts of a unit, in order. -/
structure Parts where
  /-- The heading, or nothing. -/
  heading : List Char
  /-- Blanks and marks of emphasis after the heading. -/
  markup : List Char
  /-- The title. -/
  title : List Char
  /-- Blanks, line breaks and marks of emphasis after the title. -/
  breaks : List Char
  /-- The step id, or nothing. -/
  id : List Char
  /-- The equals sign, with blanks around it. -/
  equals : List Char
  /-- The operation. -/
  operation : List Char
  /-- Blanks before the opening bracket. -/
  beforeBracket : List Char
  /-- Blanks after the opening bracket. -/
  beforeBlob : List Char
  /-- The parameters. -/
  blob : List Char
  /-- Blanks before the closing bracket. -/
  afterBlob : List Char

namespace Parts

variable (u : Parts) (after : List Char)

/-- The text from the parameters on. -/
def fromBlob : List Char :=
  u.blob ++ (u.afterBlob ++ ']' :: after)

/-- The text from the operation on. -/
def fromOperation : List Char :=
  u.operation ++ (u.beforeBracket ++ '[' :: (u.beforeBlob ++ u.fromBlob after))

/-- The text from the step id on. -/
def fromId : List Char :=
  u.id ++ (u.equals ++ u.fromOperation after)

/-- The text from the title on. -/
def fromTitle : List Char :=
  u.title ++ (u.breaks ++ u.fromId after)

/-- The whole text, and what follows it. -/
def text : List Char :=
  u.heading ++ (u.markup ++ u.fromTitle after)

/-- The marks of the step id. -/
def idMarks : Marks :=
  if u.id = [] then []
  else [(3, (u.fromId after).length), (4, (u.equals ++ u.fromOperation after).length)]

/-- The marks of all parts. -/
def marks : Marks :=
  (1, (u.fromTitle after).length) :: (2, (u.breaks ++ u.fromId after).length) ::
    (u.idMarks after ++
      [(5, (u.fromOperation after).length),
        (6, (u.beforeBracket ++ '[' :: (u.beforeBlob ++ u.fromBlob after)).length),
        (7, (u.fromBlob after).length), (8, (u.afterBlob ++ ']' :: after).length)])

/-- Whether these are the parts of a unit. -/
structure IsUnit : Prop where
  heading : u.heading = [] ∨ IsMarkedHeading u.heading ∨ IsPlainHeading u.heading
  markup : IsMarkup u.markup
  title : '\n' ∉ u.title
  breaks : ∀ c ∈ u.breaks, isBlank c ∨ c = '*'
  id : u.id = [] ∨ IsStepId u.id
  equals : IsEquals u.equals
  operation : IsName u.operation
  beforeBracket : IsBlanks u.beforeBracket
  beforeBlob : IsBlanks u.beforeBlob
  blob : IsGroup 2 u.blob
  afterBlob : IsBlanks u.afterBlob

theorem text_append : u.text [] ++ after = u.text after := by
  simp [text, fromTitle, fromId, fromOperation, fromBlob]

end Parts

/-! ### What the parts of the pattern take -/

section Takes

variable {taken text : List Char} {marks : Marks}

theorem takes_all_cons_iff {p q : Pattern} {ps : List Pattern} :
    (all (p :: q :: ps)).Takes taken marks text ↔
      ∃ first second noted noted', taken = first ++ second ∧ marks = noted ++ noted' ∧
        p.Takes first noted (second ++ text) ∧ (all (q :: ps)).Takes second noted' text :=
  takes_seq_iff

theorem takes_blanks_iff : blanks.Takes taken marks text ↔ IsBlanks taken ∧ marks = [] :=
  takes_many_one_iff

theorem takes_digits_iff : digits.Takes taken marks text ↔ IsDigits taken ∧ marks = [] :=
  takes_many_one_iff

theorem takes_optional_literal_iff {word : String} :
    (optional (literal word)).Takes taken marks text ↔ IsOptional word taken ∧ marks = [] := by
  rw [takes_optional_iff, takes_literal_iff, IsOptional]
  constructor
  · rintro (⟨rfl, rfl⟩ | ⟨rfl, rfl⟩)
    · exact ⟨.inr rfl, rfl⟩
    · exact ⟨.inl rfl, rfl⟩
  · rintro ⟨rfl | rfl, rfl⟩
    · exact .inr ⟨rfl, rfl⟩
    · exact .inl ⟨rfl, rfl⟩

theorem takes_optional_char_iff {c : Char} :
    (optional (char c)).Takes taken marks text ↔ (taken = [] ∨ taken = [c]) ∧ marks = [] := by
  rw [takes_optional_iff, takes_char_iff]
  constructor
  · rintro (⟨rfl, rfl⟩ | ⟨rfl, rfl⟩)
    · exact ⟨.inr rfl, rfl⟩
    · exact ⟨.inl rfl, rfl⟩
  · rintro ⟨rfl | rfl, rfl⟩
    · exact .inr ⟨rfl, rfl⟩
    · exact .inl ⟨rfl, rfl⟩

theorem takes_stepId_iff : stepId.Takes taken marks text ↔ IsStepId taken ∧ marks = [] := by
  simp only [stepId, all, takes_seq_iff, takes_literal_iff, takes_oneOrMore_one_iff]
  constructor
  · rintro ⟨_, ds, _, _, rfl, rfl, ⟨rfl, rfl⟩, hne, hds, rfl⟩
    exact ⟨⟨ds, hne, hds, rfl⟩, rfl⟩
  · rintro ⟨⟨ds, hne, hds, rfl⟩, rfl⟩
    exact ⟨['#', 'E'], ds, [], [], rfl, rfl, ⟨rfl, rfl⟩, hne, hds, rfl⟩

/-- A heading is one of the two kinds. -/
theorem isHeading_of_takes (h : heading.Takes taken marks text) :
    (IsMarkedHeading taken ∨ IsPlainHeading taken) ∧ marks = [] := by
  rcases takes_either_iff.mp h with h | h
  · obtain ⟨_, _, _, _, rfl, rfl, hmark, h⟩ := takes_all_cons_iff.mp h
    obtain ⟨gap, _, _, _, rfl, rfl, hgap, h⟩ := takes_all_cons_iff.mp h
    obtain ⟨_, _, _, _, rfl, rfl, hword, h⟩ := takes_all_cons_iff.mp h
    obtain ⟨gap', _, _, _, rfl, rfl, hgap', h⟩ := takes_all_cons_iff.mp h
    obtain ⟨ds, colon, _, _, rfl, rfl, hds, hcolon⟩ := takes_all_cons_iff.mp h
    obtain ⟨rfl, rfl⟩ := takes_literal_iff.mp hmark
    obtain ⟨hblank, rfl⟩ := takes_blanks_iff.mp hgap
    obtain ⟨rfl, rfl⟩ := takes_literal_iff.mp hword
    obtain ⟨hblank', rfl⟩ := takes_blanks_iff.mp hgap'
    obtain ⟨hdigits, rfl⟩ := takes_digits_iff.mp hds
    obtain ⟨hoptional, rfl⟩ := takes_optional_char_iff.mp hcolon
    exact ⟨.inl ⟨gap, gap', ds, colon, hblank, hblank', hdigits, hoptional, by simp⟩, rfl⟩
  · obtain ⟨_, _, _, _, rfl, rfl, hword, h⟩ := takes_all_cons_iff.mp h
    obtain ⟨gap, _, _, _, rfl, rfl, hgap, h⟩ := takes_all_cons_iff.mp h
    obtain ⟨ds, colon, _, _, rfl, rfl, hds, hcolon⟩ := takes_all_cons_iff.mp h
    obtain ⟨rfl, rfl⟩ := takes_literal_iff.mp hword
    obtain ⟨hblank, rfl⟩ := takes_blanks_iff.mp hgap
    obtain ⟨hdigits, rfl⟩ := takes_digits_iff.mp hds
    obtain ⟨rfl, rfl⟩ := takes_char_iff.mp hcolon
    exact ⟨.inr ⟨gap, ds, hblank, hdigits, by simp⟩, rfl⟩

/-- The line breaks and marks of emphasis after a title. -/
theorem forall_breaks_of_takes
    (h : (Pattern.many (.either (char '\n') (.seq blanks (literal "**")))).Takes taken marks text) :
    (∀ c ∈ taken, isBlank c ∨ c = '*') ∧ marks = [] := by
  refine Takes.many_induction h ⟨by simp, rfl⟩ fun hp ⟨hrest, hmarks⟩ ↦ ?_
  subst hmarks
  rcases takes_either_iff.mp hp with hp | hp
  · obtain ⟨rfl, rfl⟩ := takes_char_iff.mp hp
    refine ⟨?_, rfl⟩
    rintro c (_ | ⟨_, hc⟩)
    · exact .inl rfl
    · exact hrest c hc
  · obtain ⟨gap, _, _, _, rfl, rfl, hgap, hmark⟩ := takes_seq_iff.mp hp
    obtain ⟨hblank, rfl⟩ := takes_blanks_iff.mp hgap
    obtain ⟨rfl, rfl⟩ := takes_literal_iff.mp hmark
    refine ⟨fun c hc ↦ ?_, rfl⟩
    rw [List.mem_append, List.mem_append] at hc
    rcases hc with (hc | hc) | hc
    · exact .inl (hblank c hc)
    · exact .inr (by simpa using hc)
    · exact hrest c hc

end Takes

/-! ### The pattern from its end to its start -/

/-- The pattern of units from the opening bracket on. -/
def bracketed : Pattern :=
  all [blanks, char '[', blanks, capture 7 8 parameters, blanks, char ']']

/-- The pattern of units from the step id on. -/
def named : Pattern :=
  .seq (optional (capture 3 4 stepId)) <| .seq blanks <| .seq (optional (char '=')) <|
    .seq blanks <| .seq (capture 5 6 (oneOrMore (.one isWord))) bracketed

/-- The pattern of units from the title on. -/
def titled : Pattern :=
  .seq (capture 1 2 (.few (.one (· != '\n')))) <|
    .seq (.many (.either (char '\n') (.seq blanks (literal "**")))) <|
      .seq blanks <| .seq emphasis named

/-- The pattern of units after the heading. -/
def body : Pattern :=
  .seq blanks <| .seq emphasis <| .seq (optional (literal "Plan:")) <| .seq emphasis <|
    .seq blanks titled

section Tails

variable {taken text : List Char} {marks : Marks}

theorem exists_of_takes_bracketed (h : bracketed.Takes taken marks text) :
    ∃ gap gap' blob gap'', IsBlanks gap ∧ IsBlanks gap' ∧ IsGroup 2 blob ∧ IsBlanks gap'' ∧
      taken = gap ++ '[' :: (gap' ++ (blob ++ (gap'' ++ [']']))) ∧
      marks =
        [(7, (blob ++ (gap'' ++ ']' :: text)).length), (8, (gap'' ++ ']' :: text).length)] := by
  obtain ⟨gap, _, _, _, rfl, rfl, hgap, h⟩ := takes_seq_iff.mp h
  obtain ⟨_, _, _, _, rfl, rfl, hopen, h⟩ := takes_seq_iff.mp h
  obtain ⟨gap', _, _, _, rfl, rfl, hgap', h⟩ := takes_seq_iff.mp h
  obtain ⟨blob, _, _, _, rfl, rfl, hblob, h⟩ := takes_seq_iff.mp h
  obtain ⟨gap'', _, _, _, rfl, rfl, hgap'', hclose⟩ := takes_seq_iff.mp h
  obtain ⟨hblank, rfl⟩ := takes_blanks_iff.mp hgap
  obtain ⟨rfl, rfl⟩ := takes_char_iff.mp hopen
  obtain ⟨hblank', rfl⟩ := takes_blanks_iff.mp hgap'
  obtain ⟨noted, hparameters, rfl⟩ := takes_capture_iff.mp hblob
  obtain ⟨hgroup, rfl⟩ := takes_parameters_iff.mp hparameters
  obtain ⟨hblank'', rfl⟩ := takes_blanks_iff.mp hgap''
  obtain ⟨rfl, rfl⟩ := takes_char_iff.mp hclose
  exact ⟨gap, gap', blob, gap'', hblank, hblank', hgroup, hblank'', rfl, by simp⟩

theorem exists_of_takes_named (h : named.Takes taken marks text) :
    ∃ id equals operation rest noted noted', (id = [] ∨ IsStepId id) ∧ IsEquals equals ∧
      IsName operation ∧ bracketed.Takes rest noted text ∧
      taken = id ++ (equals ++ (operation ++ rest)) ∧
      noted' = (if id = [] then [] else
        [(3, (id ++ (equals ++ (operation ++ (rest ++ text)))).length),
          (4, (equals ++ (operation ++ (rest ++ text))).length)]) ∧
      marks = noted' ++ (5, (operation ++ (rest ++ text)).length) ::
        (6, (rest ++ text).length) :: noted := by
  obtain ⟨id, _, _, _, rfl, rfl, hid, h⟩ := takes_seq_iff.mp h
  obtain ⟨gap, _, _, _, rfl, rfl, hgap, h⟩ := takes_seq_iff.mp h
  obtain ⟨sign, _, _, _, rfl, rfl, hsign, h⟩ := takes_seq_iff.mp h
  obtain ⟨gap', _, _, _, rfl, rfl, hgap', h⟩ := takes_seq_iff.mp h
  obtain ⟨operation, rest, _, noted, rfl, rfl, hoperation, hrest⟩ := takes_seq_iff.mp h
  obtain ⟨hblank, rfl⟩ := takes_blanks_iff.mp hgap
  obtain ⟨hoptional, rfl⟩ := takes_optional_char_iff.mp hsign
  obtain ⟨hblank', rfl⟩ := takes_blanks_iff.mp hgap'
  obtain ⟨_, hname, rfl⟩ := takes_capture_iff.mp hoperation
  obtain ⟨hne, hword, rfl⟩ := takes_oneOrMore_one_iff.mp hname
  have hequals : IsEquals (gap ++ sign ++ gap') :=
    ⟨gap, sign, gap', hblank, hoptional, hblank', rfl⟩
  rcases takes_optional_iff.mp hid with hid | ⟨rfl, hnone⟩
  · obtain ⟨_, hcaptured, rfl⟩ := takes_capture_iff.mp hid
    obtain ⟨hstep, rfl⟩ := takes_stepId_iff.mp hcaptured
    have hidne : id ≠ [] := by
      obtain ⟨ds, -, -, rfl⟩ := hstep
      simp
    exact ⟨id, gap ++ sign ++ gap', operation, rest, noted, _, .inr hstep, hequals, ⟨hne, hword⟩,
      hrest, by simp, rfl, by simp [hidne]⟩
  · exact ⟨[], gap ++ sign ++ gap', operation, rest, noted, [], .inl rfl, hequals, ⟨hne, hword⟩,
      hrest, by simp, rfl, by simp [hnone]⟩

theorem exists_of_takes_titled (h : titled.Takes taken marks text) :
    ∃ title breaks rest noted, '\n' ∉ title ∧ (∀ c ∈ breaks, isBlank c ∨ c = '*') ∧
      named.Takes rest noted text ∧ taken = title ++ (breaks ++ rest) ∧
      marks = (1, (title ++ (breaks ++ (rest ++ text))).length) ::
        (2, (breaks ++ (rest ++ text)).length) :: noted := by
  obtain ⟨title, _, _, _, rfl, rfl, htitle, h⟩ := takes_seq_iff.mp h
  obtain ⟨lines, _, _, _, rfl, rfl, hlines, h⟩ := takes_seq_iff.mp h
  obtain ⟨gap, _, _, _, rfl, rfl, hgap, h⟩ := takes_seq_iff.mp h
  obtain ⟨mark, rest, _, noted, rfl, rfl, hmark, hrest⟩ := takes_seq_iff.mp h
  obtain ⟨_, hcaptured, rfl⟩ := takes_capture_iff.mp htitle
  obtain ⟨hline, rfl⟩ := takes_few_one_iff.mp hcaptured
  obtain ⟨hbreaks, rfl⟩ := forall_breaks_of_takes hlines
  obtain ⟨hblank, rfl⟩ := takes_blanks_iff.mp hgap
  obtain ⟨hoptional, rfl⟩ := takes_optional_literal_iff.mp hmark
  refine ⟨title, lines ++ gap ++ mark, rest, noted, fun hmem ↦ by simpa using hline _ hmem, ?_,
    hrest, by simp, by simp⟩
  intro c hc
  rw [List.mem_append, List.mem_append] at hc
  rcases hc with (hc | hc) | hc
  · exact hbreaks c hc
  · exact .inl (hblank c hc)
  · rcases hoptional with rfl | rfl
    · cases hc
    · exact .inr (by simpa using hc)

theorem exists_of_takes_body (h : body.Takes taken marks text) :
    ∃ markup rest, IsMarkup markup ∧ titled.Takes rest marks text ∧ taken = markup ++ rest := by
  obtain ⟨gap, _, _, _, rfl, rfl, hgap, h⟩ := takes_seq_iff.mp h
  obtain ⟨opening, _, _, _, rfl, rfl, hopening, h⟩ := takes_seq_iff.mp h
  obtain ⟨word, _, _, _, rfl, rfl, hword, h⟩ := takes_seq_iff.mp h
  obtain ⟨closing, _, _, _, rfl, rfl, hclosing, h⟩ := takes_seq_iff.mp h
  obtain ⟨gap', rest, _, _, rfl, rfl, hgap', hrest⟩ := takes_seq_iff.mp h
  obtain ⟨hblank, rfl⟩ := takes_blanks_iff.mp hgap
  obtain ⟨hoptional, rfl⟩ := takes_optional_literal_iff.mp hopening
  obtain ⟨hplan, rfl⟩ := takes_optional_literal_iff.mp hword
  obtain ⟨hoptional', rfl⟩ := takes_optional_literal_iff.mp hclosing
  obtain ⟨hblank', rfl⟩ := takes_blanks_iff.mp hgap'
  exact ⟨_, rest, ⟨gap, opening, word, closing, gap', hblank, hoptional, hplan, hoptional', hblank',
    rfl⟩, hrest, by simp⟩

/-- What the pattern takes after a heading is the text of the other parts. -/
theorem exists_parts_of_takes_body (h : body.Takes taken marks text) {heading : List Char}
    (hheading : heading = [] ∨ IsMarkedHeading heading ∨ IsPlainHeading heading) :
    ∃ u : Parts, u.IsUnit ∧ u.heading = heading ∧ heading ++ taken = u.text [] ∧
      marks = u.marks text := by
  obtain ⟨markup, _, hmarkup, htitled, rfl⟩ := exists_of_takes_body h
  obtain ⟨title, breaks, _, _, htitle, hbreaks, hnamed, rfl, rfl⟩ := exists_of_takes_titled htitled
  obtain ⟨id, equals, operation, _, _, idMarks, hid, hequals, hoperation, hbracketed, rfl, hidMarks,
    rfl⟩ := exists_of_takes_named hnamed
  obtain ⟨gap, gap', blob, gap'', hgap, hgap', hblob, hgap'', rfl, rfl⟩ :=
    exists_of_takes_bracketed hbracketed
  refine ⟨⟨heading, markup, title, breaks, id, equals, operation, gap, gap', blob, gap''⟩,
    ⟨hheading, hmarkup, htitle, hbreaks, hid, hequals, hoperation, hgap, hgap', hblob, hgap''⟩,
    rfl, rfl, ?_⟩
  simp [Parts.marks, Parts.idMarks, Parts.fromTitle, Parts.fromId, Parts.fromOperation,
    Parts.fromBlob, hidMarks]

/-- What the pattern of units takes is the text of the parts of a unit. -/
theorem exists_parts_of_takes (h : unit.Takes taken marks text) :
    ∃ u : Parts, u.IsUnit ∧ taken = u.text [] ∧ marks = u.marks text := by
  obtain ⟨heading, _, noted, _, rfl, rfl, hheading, hbody⟩ := takes_seq_iff.mp h
  obtain ⟨hkind, rfl⟩ : (heading = [] ∨ IsMarkedHeading heading ∨ IsPlainHeading heading) ∧
      noted = [] := by
    rcases takes_optional_iff.mp hheading with hsome | ⟨hempty, hmarks⟩
    · exact ⟨.inr (isHeading_of_takes hsome).1, (isHeading_of_takes hsome).2⟩
    · exact ⟨.inl hempty, hmarks⟩
  obtain ⟨u, hu, -, htext, hmarks⟩ := exists_parts_of_takes_body hbody hkind
  exact ⟨u, hu, htext, hmarks⟩

end Tails

end Errand.Plan
