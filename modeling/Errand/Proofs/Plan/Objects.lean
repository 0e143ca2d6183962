import Errand.Proofs.Json.Grammar
import Errand.Proofs.Plan.PlainForm

/-!
# Parameters that are objects

The parameters of a unit are found by their braces, and nobody looks whether a brace stands in a
string. So an object is cut where its braces close for the first time before its end, if blanks and
a bracket follow (`Cuts`). `parse_object` says that nothing else goes wrong. A unit whose parameters
are an object is read with all of it, or with the part at which it is cut, or not at all, and an
object is cut only if a string in it holds a closing brace.

The title is a line without an opening bracket, because a bracket in it could be that of an
operation with parameters of its own. It also has to hold something besides blanks and markup.
Otherwise the title that is recognised begins behind its line, and it may stretch into the
parameters.
-/

set_option autoImplicit false

namespace Errand.Plan

open Text Text.Pattern
open Json (IsObjectText)

/-! ### Lines of markup -/

theorem IsBlanks.isMarkup {text : List Char} (h : IsBlanks text) : IsMarkup text :=
  ⟨text, [], [], [], [], h, .inl rfl, .inl rfl, .inl rfl, isBlanks_nil, by simp⟩

/-- Markup without the blank in front of it is markup. -/
theorem isMarkup_of_blank {c : Char} {text : List Char} (hc : isBlank c)
    (h : IsMarkup (c :: text)) : IsMarkup text := by
  obtain ⟨gap, opening, word, closing, gap', hgap, hopening, hword, hclosing, hgap', heq⟩ := h
  rcases gap with _ | ⟨d, gap⟩
  · rcases hopening with rfl | rfl
    · rcases hword with rfl | rfl
      · rcases hclosing with rfl | rfl
        · obtain rfl : c :: text = gap' := by simpa using heq
          exact IsBlanks.isMarkup fun d hd ↦ hgap' d (List.mem_cons_of_mem c hd)
        · obtain rfl := (List.cons.inj heq).1
          exact absurd hc (by decide)
      · obtain rfl := (List.cons.inj heq).1
        exact absurd hc (by decide)
    · obtain rfl := (List.cons.inj heq).1
      exact absurd hc (by decide)
  · obtain ⟨rfl, rfl⟩ := List.cons.inj heq
    exact ⟨gap, opening, word, closing, gap', fun d hd ↦ hgap d (List.mem_cons_of_mem c hd),
      hopening, hword, hclosing, hgap', rfl⟩

/-- A line of markup is markup. -/
theorem isMarkup_of_line {front back : List Char} (hline : '\n' ∉ front)
    (h : IsMarkup (front ++ '\n' :: back)) : IsMarkup front := by
  obtain ⟨gap, opening, word, closing, gap', hgap, hopening, hword, hclosing, hgap', heq⟩ := h
  have hmiddle : '\n' ∉ opening ++ (word ++ closing) := by
    simp [hopening.notMem (show '\n' ∉ _ by decide), hword.notMem (show '\n' ∉ _ by decide),
      hclosing.notMem (show '\n' ∉ _ by decide)]
  rw [List.append_assoc gap, List.append_assoc gap, List.append_assoc gap] at heq
  rcases List.append_eq_append_iff.mp heq with ⟨more, rfl, -⟩ | ⟨more, rfl, hmore⟩
  · exact IsBlanks.isMarkup fun c hc ↦ hgap c (List.mem_append_left more hc)
  · rw [List.append_assoc opening] at hmore
    obtain ⟨last, rfl, rfl⟩ := exists_of_notMem_left hmiddle hmore.symm
    exact ⟨gap, opening, word, closing, last, hgap, hopening, hword, hclosing,
      fun c hc ↦ hgap' c (List.mem_append_left _ hc), by simp⟩

/-! ### Units -/

/-- A unit on two lines whose parameters are an object. -/
structure ObjectUnit where
  /-- The number in the heading. -/
  number : List Char
  /-- The title. -/
  title : List Char
  /-- The digits of the step id. -/
  index : List Char
  /-- The operation. -/
  operation : List Char
  /-- The object. -/
  object : List Char
  /-- The strings in the object, as they are written between their quotes. -/
  strings : List (List Char)
  isNumber : number ≠ [] ∧ IsDigits number
  oneLine : '\n' ∉ title
  noBracket : '[' ∉ title
  notMarkup : ¬ IsMarkup title
  isIndex : index ≠ [] ∧ IsDigits index
  isOperation : IsName operation
  isObject : IsObjectText object strings

namespace ObjectUnit

variable (v : ObjectUnit)

/-- The parts of a unit with the blanks between them. -/
def written : Written :=
  .onTwoLines v.number v.title v.index v.operation v.object

/-- The text of a unit. -/
def text : String :=
  String.ofList (v.written.text [])

/-- The step of a unit with a title and with parameters. -/
def step (title : String) (template : List Char) : Step where
  title := title
  id := String.ofList ('#' :: 'E' :: v.index)
  operation := String.ofList v.operation
  template := String.ofList template

theorem isWritten : v.written.IsWritten :=
  Written.isWritten_onTwoLines v.isNumber v.noBracket v.isIndex v.isOperation v.isObject.2

theorem marker_eq : v.written.marker = "Plan".toList ++ ' ' :: (v.number ++ [':']) := rfl

theorem text_eq (rest : List Char) : v.written.text rest =
    v.written.marker ++ ' ' :: v.title ++ '\n' :: v.written.fromId rest := by
  simp [written, Written.onTwoLines, Written.text, Written.opening, Written.fromTitle]

end ObjectUnit

/-! ### Where objects are cut -/

/-- Whether the braces of an object close at the end of a part of it, in front of a bracket. -/
def Cuts (object cut : List Char) : Prop :=
  IsGroup 2 cut ∧ ∃ gap rest, IsBlanks gap ∧ object = cut ++ (gap ++ ']' :: rest)

/-- An object is cut in one place at most. -/
theorem Cuts.unique {object cut cut' : List Char} (h : Cuts object cut) (h' : Cuts object cut') :
    cut = cut' := by
  obtain ⟨hgroup, _, _, -, hcut⟩ := h
  obtain ⟨hgroup', _, _, -, hcut'⟩ := h'
  exact hgroup.unique hgroup' (hcut.symm.trans hcut')

/-- No object is cut that closes only once, at its end. -/
theorem not_cuts_of_group {limit : Nat} {object cut : List Char} (h : IsGroup limit object) :
    ¬ Cuts object cut := by
  rintro ⟨hgroup, gap, rest, -, hcut⟩
  obtain rfl := hgroup.unique h ((List.append_nil object).trans hcut).symm
  simp at hcut

/-- An object is cut only if a string in it holds a closing brace. -/
theorem Cuts.exists_string {object cut : List Char} {strings : List (List Char)}
    (h : Cuts object cut) (hobject : IsObjectText object strings) : ∃ raw ∈ strings, '}' ∈ raw := by
  obtain ⟨hgroup, gap, rest, -, hcut⟩ := h
  by_contra hnone
  have hwhole := hobject.eq_of_group (fun raw hraw hmem ↦ hnone ⟨raw, hraw, hmem⟩) hgroup hcut
  simp at hwhole

section Found

variable {v : ObjectUnit} {u : Parts} {after : List Char}

/-- Markup that goes on behind the heading of a unit begins there. -/
theorem markup_of_heading (hu : u.IsUnit) {text : List Char}
    (h : u.heading ++ u.markup = v.written.marker ++ ' ' :: text) : u.markup = ' ' :: text := by
  have hdigits : ∀ {digits : List Char}, IsDigits digits → ':' ∉ digits :=
    fun hds ↦ hds.notMem (by decide)
  rcases hu.heading with hnone | ⟨gap, gap', ds, colon, -, -, -, -, hmarked⟩ |
    ⟨gap, ds, hgap, hds, hplain⟩
  · -- Markup would have to begin with the word alone, and a blank follows it here.
    rw [hnone, List.nil_append] at h
    have hprefix : "Plan:".toList <+: v.written.marker ++ ' ' :: text := by
      refine @word_prefix_of_markup [] _ 'P' isBlanks_nil ?_ (by decide) (by decide)
      exact h ▸ hu.markup
    obtain ⟨more, hmore⟩ := hprefix
    exact absurd (congrArg (·[4]?) hmore) (by simp [ObjectUnit.marker_eq])
  · rw [hmarked] at h
    exact absurd (List.cons.inj h).1 (by decide)
  · have hfront : ':' ∉ "Plan".toList ++ (gap ++ ds) := by
      simp [hgap.notMem (show isBlank ':' = false by decide), hdigits hds]
    have hfront' : ':' ∉ "Plan".toList ++ ([' '] ++ v.number) := by
      simp [hdigits v.isNumber.2]
    have hsplit : ("Plan".toList ++ (gap ++ ds)) ++ ':' :: u.markup =
        ("Plan".toList ++ ([' '] ++ v.number)) ++ ':' :: ' ' :: text := by
      rw [hplain] at h
      simpa [v.marker_eq] using h
    exact (append_cons_inj_of_first hfront hfront' hsplit).2

/-- The title that is recognised begins on the line of the title. -/
theorem exists_front (hu : u.IsUnit) {rest : List Char} (h : u.text after = v.written.text rest) :
    ∃ front, u.fromTitle after = front ++ v.written.fromId rest ∧ '\n' ∈ front ∧ '[' ∉ front := by
  have hbracket : '[' ∉ v.written.marker ++ ' ' :: v.title := by
    simp [ObjectUnit.marker_eq, v.isNumber.2.notMem (show isDigit '[' = false by decide),
      v.noBracket]
  rw [Parts.text, ← List.append_assoc, v.text_eq] at h
  rcases List.append_eq_append_iff.mp h with ⟨front, hfront, hfrom⟩ | ⟨beyond, hbeyond, hfrom⟩
  · refine ⟨front ++ ['\n'], by simpa using hfrom, by simp, ?_⟩
    rw [hfront] at hbracket
    simpa using fun hmem ↦ hbracket (List.mem_append_right _ hmem)
  · rcases beyond with _ | ⟨c, beyond⟩
    · exact ⟨['\n'], hfrom.symm, by simp, by simp⟩
    · -- Heading and markup would take the whole line.
      obtain ⟨rfl, -⟩ := List.cons.inj hfrom
      rw [List.append_assoc] at hbeyond
      have hmarkup := hu.markup
      rw [markup_of_heading hu hbeyond] at hmarkup
      exact absurd (isMarkup_of_line v.oneLine (isMarkup_of_blank (by decide) hmarkup)) v.notMarkup

/-- The parameters that are recognised at the start of an object and its bracket. -/
theorem blob_of_object (hu : u.IsUnit) {object : List Char} {strings : List (List Char)}
    (hobject : IsObjectText object strings)
    (h : u.beforeBlob ++ u.fromBlob after = object ++ [']']) :
    u.blob = object ∧ after = [] ∨ Cuts object u.blob := by
  obtain ⟨inner, hinner, -⟩ := hobject.exists_inner
  have hbrace : ∀ text : List Char, text.head? = some '{' →
      ∀ c ∈ text.head?, isBlank c = false := by
    intro text hhead c hc
    obtain rfl := Option.some.inj (hhead.symm.trans hc)
    decide
  obtain ⟨-, hfrom⟩ := append_inj_of_class hu.beforeBlob
    (hbrace (u.fromBlob after) (by simp [Parts.fromBlob, hu.blob.head?]))
    isBlanks_nil (hbrace (object ++ [']']) (by simp [hinner])) h
  rw [Parts.fromBlob] at hfrom
  rcases List.eq_nil_or_concat after with rfl | ⟨more, c, rfl⟩
  · rw [← List.append_assoc] at hfrom
    have hend : u.blob ++ u.afterBlob = object := (List.append_inj' hfrom rfl).1
    rcases List.eq_nil_or_concat u.afterBlob with hnil | ⟨gap, d, hgap⟩
    · exact .inl ⟨by simpa [hnil] using hend, rfl⟩
    · obtain rfl : d = '}' := by
        have hlast := hobject.getLast?
        rw [← hend, hgap, List.concat_eq_append, ← List.append_assoc, List.getLast?_concat] at hlast
        exact Option.some.inj hlast
      exact absurd (by simp [hgap]) (hu.afterBlob.notMem (show isBlank '}' = false by decide))
  · have hsplit : u.blob ++ (u.afterBlob ++ ']' :: more) ++ [c] = object ++ [']'] := by
      simpa using hfrom
    exact .inr ⟨hu.blob, u.afterBlob, more, hu.afterBlob, (List.append_inj' hsplit rfl).1.symm⟩

/-- The title that is recognised does not vanish, because it holds the first character of one that
begins plainly. -/
theorem cleanTitle_ne_nil_of_breaks (hu : u.IsUnit) {extra title gap : List Char}
    (hplain : BeginsPlainly title) (h : extra ++ (title ++ gap) = u.title ++ u.breaks) :
    cleanTitle u.title ≠ [] := by
  obtain ⟨c, tail, rfl, hblank, hstar, -⟩ := hplain
  have hmem : c ∈ u.title ++ u.breaks := by
    rw [← h]
    simp
  refine cleanTitle_ne_nil ((List.mem_append.mp hmem).resolve_right fun hc ↦ ?_) hblank hstar
  exact (hu.breaks c hc).elim (fun hc ↦ by simp [hc] at hblank) hstar

end Found

/-! ### How a unit is read -/

namespace ObjectUnit

variable (v : ObjectUnit)

/-- A unit that is read is read with its whole object or with the part at which it is cut. -/
theorem exists_step_of_parse {plan : Plan} (h : parse v.text = .ok plan) :
    ∃ title template steps, plan = ⟨v.step title template :: steps, v.text⟩ ∧
      IsGroup 2 template ∧ (template = v.object ∧ steps = [] ∨ Cuts v.object template) := by
  have hbegin : v.written.text [] =
      v.written.marker ++ (' ' :: v.title ++ '\n' :: v.written.fromId []) := by
    simp [v.text_eq]
  obtain ⟨u, after, steps, hu, htext, hsteps, hlast⟩ :=
    exists_first_of_parse v.isWritten.isMarker hbegin h
  obtain ⟨front, hfront, hline, hbracket⟩ := exists_front hu htext.symm
  obtain ⟨-, hid, hoperation, hfrom⟩ := assigned_of_front hu v.isWritten hline hbracket hfront
  have hstep : u.step = v.step (String.ofList (cleanTitle u.title)) u.blob := by
    rw [Parts.step, hid, hoperation]
    rfl
  have hplan : plan = ⟨u.step :: steps, v.text⟩ := by
    rw [← hsteps, ← String.ofList_toList (s := v.text), ← (isPlanOf_of_parse h).rawText]
  refine ⟨_, u.blob, steps, by rw [hplan, hstep], hu.blob, ?_⟩
  exact (blob_of_object hu v.isObject hfrom).imp_left (And.imp_right hlast)

/-- A unit is read with its whole object if the object has one further level of braces at most, and
if its title begins plainly. -/
theorem exists_parse_of_group (hobject : IsGroup 2 v.object) (htitle : BeginsPlainly v.title) :
    ∃ title, parse v.text = .ok ⟨[v.step title v.object], v.text⟩ := by
  have hline : '\n' ∉ v.written.marker ++ ' ' :: v.title := by
    simp [marker_eq, v.isNumber.2.notMem (show isDigit '\n' = false by decide), v.oneLine]
  have hwhole : v.written.text [] =
      v.written.marker ++ ' ' :: v.title ++ (v.written.beforeId ++ v.written.fromId []) :=
    v.text_eq []
  have hfirst := isSome_first?_of_written v.isWritten hobject isBlanks_nil hline []
  rw [List.nil_append, ← hwhole] at hfirst
  obtain ⟨u, after, hu, htext, hfind⟩ := exists_unit_of_isSome hfirst
  obtain ⟨extra, -, hbreaks, hid, hoperation, hfrom⟩ :=
    assigned_of_text hu v.isWritten htitle (List.mem_append_right _ List.mem_cons_self)
      List.not_mem_nil htext.symm
  obtain ⟨hblob, rfl⟩ := blob_of_fromBlob hu v.isWritten hobject hfrom
  have hyields : Yields [u.step] (u.text []) :=
    @Yields.cons u [] [] [] hu (cleanTitle_ne_nil_of_breaks hu htitle hbreaks) (htext ▸ hfind)
      (fun _ _ _ _ _ ↦ Nat.zero_le _) (yields_prose isProse_nil)
  have hread : parse v.text = .ok ⟨[u.step], v.text⟩ := by
    refine parse_of_yields ?_ (List.cons_ne_nil _ _)
    rw [text, String.toList_ofList, htext]
    exact hyields
  refine ⟨String.ofList (cleanTitle u.title), ?_⟩
  rw [hread, Parts.step, hid, hoperation, hblob]
  rfl

end ObjectUnit

/-- The text of an object with one field. -/
theorem isObjectText_field {key text : List Char} {strings : List (List Char)}
    (hkey : Json.IsRaw key) (htext : Json.IsText text .value strings) :
    IsObjectText ("\x7b\"".toList ++ (key ++ ("\": ".toList ++ (text ++ ['\x7d']))))
      (key :: strings) := by
  have hfield := Json.IsText.field hkey Json.isBlank_nil
    (show Json.IsBlank [' '] by simp [Json.IsBlank, Json.isSpace]) Json.isBlank_nil htext
  refine ⟨?_, rfl⟩
  simpa using Json.IsText.obj Json.isBlank_nil hfield

/-- A unit whose parameters are an object is read with the whole object or not at all, unless the
object is cut. It is cut only if a string in it holds a closing brace, and then nothing else is read
for the object than the part at which it is cut. Nothing is lost of an object with one further level
of braces at most, if the title begins plainly. -/
theorem parse_object (v : ObjectUnit) :
    ((∀ cut, ¬ Cuts v.object cut) → (∃ fault, parse v.text = .error fault) ∨
      ∃ title, parse v.text = .ok ⟨[v.step title v.object], v.text⟩) ∧
    (∀ cut, Cuts v.object cut → (∃ raw ∈ v.strings, '}' ∈ raw) ∧
      ((∃ fault, parse v.text = .error fault) ∨
        ∃ title steps, parse v.text = .ok ⟨v.step title cut :: steps, v.text⟩)) ∧
    (IsGroup 2 v.object → BeginsPlainly v.title →
      ∃ title, parse v.text = .ok ⟨[v.step title v.object], v.text⟩) := by
  refine ⟨fun hwhole ↦ ?_, fun cut hcut ↦ ⟨hcut.exists_string v.isObject, ?_⟩,
    v.exists_parse_of_group⟩
  · cases hparse : parse v.text with
    | error fault => exact .inl ⟨fault, rfl⟩
    | ok plan =>
      obtain ⟨title, template, steps, rfl, -, ⟨rfl, rfl⟩ | hcut⟩ := v.exists_step_of_parse hparse
      · exact .inr ⟨title, rfl⟩
      · exact absurd hcut (hwhole template)
  · cases hparse : parse v.text with
    | error fault => exact .inl ⟨fault, rfl⟩
    | ok plan =>
      obtain ⟨title, template, steps, rfl, hgroup, ⟨rfl, rfl⟩ | hcut'⟩ :=
        v.exists_step_of_parse hparse
      · exact absurd hcut (not_cuts_of_group hgroup)
      · exact .inr ⟨title, steps, by rw [hcut.unique hcut']⟩

/-- A unit with a short title. -/
def ObjectUnit.short {object : List Char} {strings : List (List Char)}
    (isObject : IsObjectText object strings) : ObjectUnit where
  number := ['1']
  title := ['t']
  index := ['1']
  operation := ['O', 'p']
  object := object
  strings := strings
  isNumber := by decide
  oneLine := by decide
  noBracket := by decide
  notMarkup := by
    rintro ⟨gap, opening, word, closing, gap', hgap, hopening, hword, hclosing, hgap', htitle⟩
    have hmem : 't' ∈ gap ++ opening ++ word ++ closing ++ gap' := by
      rw [← htitle]
      exact List.mem_singleton_self 't'
    simp only [List.mem_append, hgap.notMem (show isBlank 't' = false by decide),
      hopening.notMem (by decide : 't' ∉ _), hword.notMem (by decide : 't' ∉ _),
      hclosing.notMem (by decide : 't' ∉ _), hgap'.notMem (show isBlank 't' = false by decide),
      or_self] at hmem
  isIndex := by decide
  isOperation := by decide
  isObject := isObject

theorem ObjectUnit.text_short {object : List Char} {strings : List (List Char)}
    (isObject : IsObjectText object strings) :
    (short isObject).text = "Plan 1: t\n#E1 = Op[" ++ String.ofList object ++ "]" := by
  apply String.toList_injective
  simp [text, short, written, Written.onTwoLines, Written.text, Written.opening, Written.fromTitle,
    Written.marker, Written.fromId, Written.assignment, Written.fromBlob]

/-- An object is read whole though a string in it holds brackets. One that is too deep to be read is
not cut at least. And one is cut where a string in it holds a closing brace and a bracket. -/
theorem parse_object_of_brackets :
    let whole := "Plan 1: t\n#E1 = Op[\x7b\"a\": \"[x]\"\x7d]"
    let deep := "Plan 1: t\n#E1 = Op[\x7b\"a\": \x7b\"b\": \x7b\x7d\x7d\x7d]"
    let cut := "Plan 1: t\n#E1 = Op[\x7b\"a\": \"\x7d]\"\x7d]"
    (∃ title, parse whole = .ok ⟨[⟨title, "#E1", "Op", "\x7b\"a\": \"[x]\"\x7d"⟩], whole⟩) ∧
      ((∃ fault, parse deep = .error fault) ∨ ∃ title, parse deep =
        .ok ⟨[⟨title, "#E1", "Op", "\x7b\"a\": \x7b\"b\": \x7b\x7d\x7d\x7d"⟩], deep⟩) ∧
      ((∃ fault, parse cut = .error fault) ∨ ∃ title steps, parse cut =
        .ok ⟨⟨title, "#E1", "Op", "\x7b\"a\": \"\x7d"⟩ :: steps, cut⟩) := by
  intro whole deep cut
  have hkey : ∀ {c : Char}, ([c].all fun c ↦ c != '"' && c != '\\' && 0x20 ≤ c.toNat) →
      Json.IsRaw [c] := Json.isRaw_of_plain
  have hstring : ∀ {raw : List Char}, (raw.all fun c ↦ c != '"' && c != '\\' && 0x20 ≤ c.toNat) →
      Json.IsText ('"' :: raw ++ ['"']) .value [raw] := fun h ↦ .str (Json.isRaw_of_plain h)
  refine ⟨?_, ?_, ?_⟩
  · have hobject : IsObjectText "\x7b\"a\": \"[x]\"\x7d".toList [['a'], ['[', 'x', ']']] :=
      isObjectText_field (@hkey 'a' (by decide)) (@hstring ['[', 'x', ']'] (by decide))
    obtain ⟨title, hread⟩ := (parse_object (.short hobject)).2.2
      (show IsGroup 2 "\x7b\"a\": \"[x]\"\x7d".toList by decide +kernel)
      ⟨'t', [], rfl, by decide, by decide, show ¬ "Plan:".toList <+: ['t'] by decide +kernel⟩
    rw [ObjectUnit.text_short] at hread
    exact ⟨title, hread⟩
  · have hobject : IsObjectText "\x7b\"a\": \x7b\"b\": \x7b\x7d\x7d\x7d".toList [['a'], ['b']] :=
      isObjectText_field (@hkey 'a' (by decide))
        (isObjectText_field (@hkey 'b' (by decide)) (.emptyObj Json.isBlank_nil)).1
    have hgroup : IsGroup 3 "\x7b\"a\": \x7b\"b\": \x7b\x7d\x7d\x7d".toList := by decide +kernel
    have hread := (parse_object (.short hobject)).1 fun _ ↦ not_cuts_of_group hgroup
    rw [ObjectUnit.text_short] at hread
    exact hread
  · have hobject : IsObjectText "\x7b\"a\": \"\x7d]\"\x7d".toList [['a'], ['\x7d', ']']] :=
      isObjectText_field (@hkey 'a' (by decide)) (@hstring ['\x7d', ']'] (by decide))
    have hcuts : Cuts "\x7b\"a\": \"\x7d]\"\x7d".toList "\x7b\"a\": \"\x7d".toList :=
      ⟨by decide +kernel, [], "\"\x7d".toList, isBlanks_nil, by decide +kernel⟩
    have hread := ((parse_object (.short hobject)).2.1 _ hcuts).2
    rw [ObjectUnit.text_short] at hread
    exact hread

/-- Without regard to strings, a brace in a string closes the parameters; a bracket in a title opens
parameters of its own; and behind a title that is markup, the title that is recognised goes on into
the parameters. -/
theorem parse_object_cut :
    (IsObjectText "\x7b\"a\": \"\x7d]\"\x7d".toList ["a".toList, "\x7d]".toList] ∧
      parse "Plan 1: t\n#E1 = Op[\x7b\"a\": \"\x7d]\"\x7d]" =
        .ok ⟨[⟨"t", "#E1", "Op", "\x7b\"a\": \"\x7d"⟩],
          "Plan 1: t\n#E1 = Op[\x7b\"a\": \"\x7d]\"\x7d]"⟩) ∧
    (IsObjectText "\x7b\x7d".toList [] ∧
      parse "Plan 1: a Op[\x7b\x7d] b\n#E1 = Op[\x7b\x7d]" =
        .ok ⟨[⟨"a", "", "Op", "\x7b\x7d"⟩, ⟨"b", "#E1", "Op", "\x7b\x7d"⟩],
          "Plan 1: a Op[\x7b\x7d] b\n#E1 = Op[\x7b\x7d]"⟩) ∧
    IsObjectText "\x7b\"a\": \x7b\"b\": \x7b\"c\": \"Op[\x7b\x7d]\"\x7d\x7d\x7d".toList
        ["a".toList, "b".toList, "c".toList, "Op[\x7b\x7d]".toList] ∧
      parse ("Plan 1: Plan:\n#E1 = Op[" ++
          "\x7b\"a\": \x7b\"b\": \x7b\"c\": \"Op[\x7b\x7d]\"\x7d\x7d\x7d]") =
        .ok ⟨[⟨"E1 = Op[\x7b\"a\": \x7b\"b\": \x7b\"c\": \"", "", "Op", "\x7b\x7d"⟩],
          "Plan 1: Plan:\n#E1 = Op[" ++
            "\x7b\"a\": \x7b\"b\": \x7b\"c\": \"Op[\x7b\x7d]\"\x7d\x7d\x7d]"⟩ := by
  have hstring : Json.IsText "\"\x7d]\"".toList .value ["\x7d]".toList] :=
    @Json.IsText.str "\x7d]".toList (Json.isRaw_of_plain (by decide))
  have hdeep : Json.IsText "\"Op[\x7b\x7d]\"".toList .value ["Op[\x7b\x7d]".toList] :=
    @Json.IsText.str "Op[\x7b\x7d]".toList (Json.isRaw_of_plain (by decide))
  have hinner := isObjectText_field (@Json.isRaw_of_plain ['c'] (by decide)) hdeep
  have hmiddle := isObjectText_field (@Json.isRaw_of_plain ['b'] (by decide)) hinner.1
  refine ⟨⟨?_, parse_of_toOption (by decide +kernel)⟩,
    ⟨⟨.emptyObj Json.isBlank_nil, rfl⟩, parse_of_toOption (by decide +kernel)⟩, ?_,
    parse_of_toOption (by decide +kernel)⟩
  · exact isObjectText_field (@Json.isRaw_of_plain ['a'] (by decide)) hstring
  · exact isObjectText_field (@Json.isRaw_of_plain ['a'] (by decide)) hmiddle.1

end Errand.Plan
