import Errand.Proofs.Plan.Sequence

/-!
# Plans in the plain form

A plain unit stands on two lines, with a numbered heading and a step id, and its title has no markup
of its own. A text in the plain form is made of plain units, each on lines of its own, with prose
before, between and after them that holds neither a bracket nor a marker. `parse_plainText` says
that such a text is read as a plan of just these units.

From the second unit on, a match begins before the heading of its unit, in the prose or at the line
break. So a unit is not found where it stands: `shows_of_found` says what is found from any position
in the prose before it, and `Embeds` is the form of the texts over which units are found one after
another.
-/

set_option autoImplicit false

namespace Errand.Plan

open Text Text.Pattern

/-! ### Plain units -/

/-- A unit in the plain form. -/
structure PlainUnit where
  /-- The number in the heading. -/
  number : List Char
  /-- The title. -/
  title : List Char
  /-- The digits of the step id. -/
  index : List Char
  /-- The operation. -/
  operation : List Char
  /-- The parameters. -/
  blob : List Char
  isNumber : number ≠ [] ∧ IsDigits number
  isTitle : IsPlainTitle title
  isIndex : index ≠ [] ∧ IsDigits index
  isOperation : IsName operation
  isBlob : IsGroup 2 blob

namespace PlainUnit

variable (v : PlainUnit)

/-- The lines of a unit. -/
def text : List Char :=
  "Plan".toList ++ ' ' :: (v.number ++ ':' :: ' ' :: (v.title ++ '\n' :: '#' :: 'E' ::
    (v.index ++ ' ' :: '=' :: ' ' :: (v.operation ++ '[' :: (v.blob ++ [']'])))))

/-- The step that a unit stands for. -/
def step : Step where
  title := String.ofList v.title
  id := String.ofList ('#' :: 'E' :: v.index)
  operation := String.ofList v.operation
  template := String.ofList v.blob

/-- The parts of a unit with the blanks between them. -/
def written : Written :=
  .onTwoLines v.number v.title v.index v.operation v.blob

theorem isWritten : v.written.IsWritten :=
  Written.isWritten_onTwoLines v.isNumber v.isTitle.bracket v.isIndex v.isOperation v.isBlob.head?

theorem text_append (rest : List Char) : v.text ++ rest = v.written.text rest := by
  simp only [text, written, Written.onTwoLines, Written.text, Written.fromTitle, Written.opening,
    Written.marker, Written.fromId, Written.assignment, Written.fromBlob, List.append_assoc,
    List.cons_append, List.nil_append]

theorem opening_eq : v.written.opening =
    "Plan".toList ++ ([' '] ++ (v.number ++ ([] ++ ':' :: [' ']))) := by
  simp [written, Written.onTwoLines, Written.opening, Written.marker]

end PlainUnit

/-! ### Prose -/

/-- Whether a text holds neither a bracket nor a marker. -/
structure IsProse (text : List Char) : Prop where
  bracket : '[' ∉ text
  marker : ∀ before marker after, text = before ++ (marker ++ after) → ¬ IsMarker marker

theorem IsMarker.getLast? {marker : List Char} (h : IsMarker marker) :
    marker.getLast? = some '=' ∨ marker.getLast? = some ':' := by
  rcases h with ⟨id, gap, -, -, rfl⟩ | ⟨gap, ds, gap', -, -, -, rfl⟩
  · exact .inl (by simp)
  · refine .inr ?_
    simp only [← List.append_assoc]
    exact List.getLast?_concat

/-- A text without a bracket and without a character that begins a marker is prose. -/
theorem isProse_of_notMem {text : List Char} (hbracket : '[' ∉ text) (hsharp : '#' ∉ text)
    (hcapital : 'P' ∉ text) : IsProse text := by
  refine ⟨hbracket, fun before marker after htext hmarker ↦ ?_⟩
  obtain ⟨c, tail, rfl, hbegins, -⟩ := hmarker.exists_cons
  have hmem : c ∈ text := by simp [htext]
  rcases hbegins with rfl | rfl
  · exact hsharp hmem
  · exact hcapital hmem

theorem isProse_nil : IsProse [] :=
  isProse_of_notMem List.not_mem_nil List.not_mem_nil List.not_mem_nil

theorem IsProse.suffix {text text' : List Char} (h : IsProse text) (hsuffix : text' <:+ text) :
    IsProse text' := by
  obtain ⟨front, rfl⟩ := hsuffix
  refine ⟨fun hmem ↦ h.bracket (List.mem_append_right _ hmem), fun before marker after htext ↦ ?_⟩
  exact h.marker (front ++ before) marker after (by simp [htext])

/-- A line break in front of prose begins no marker. -/
theorem IsProse.cons_line {text : List Char} (h : IsProse text) : IsProse ('\n' :: text) := by
  refine ⟨by simp [h.bracket], fun before marker after htext hmarker ↦ ?_⟩
  obtain ⟨c, tail, hcons, hbegins, -⟩ := hmarker.exists_cons
  rcases before with _ | ⟨d, before⟩
  · rw [List.nil_append, hcons] at htext
    rw [← (List.cons.inj htext).1] at hbegins
    exact not_beginsMarker_of_blank (by decide) hbegins
  · exact h.marker before marker after (List.cons.inj htext).2 hmarker

/-- A line break after prose ends no marker. -/
theorem IsProse.append_line {text : List Char} (h : IsProse text) : IsProse (text ++ ['\n']) := by
  refine ⟨by simp [h.bracket], fun before marker after htext hmarker ↦ ?_⟩
  rcases List.eq_nil_or_concat after with rfl | ⟨after, c, rfl⟩
  · have hlast := congrArg List.getLast? htext
    have hne : marker ≠ [] := by
      obtain ⟨c, tail, rfl, -⟩ := hmarker.exists_cons
      simp
    rw [List.append_nil, List.getLast?_concat, List.getLast?_append_of_ne_nil _ hne] at hlast
    rcases hmarker.getLast? with hend | hend <;> simp [hend] at hlast
  · rw [List.concat_eq_append, ← List.append_assoc, ← List.append_assoc] at htext
    exact h.marker before marker after (by simpa using (List.append_inj' htext rfl).1) hmarker

/-! ### What is found in front of a unit -/

/-- Whether a recognised unit is a plain unit, once its title is cleaned. -/
structure Shows (u : Parts) (v : PlainUnit) : Prop where
  isUnit : u.IsUnit
  title : cleanTitle u.title = v.title
  id : u.id = '#' :: 'E' :: v.index
  operation : u.operation = v.operation
  blob : u.blob = v.blob

theorem Shows.step_eq {u : Parts} {v : PlainUnit} (h : Shows u v) : u.step = v.step := by
  rw [Parts.step, h.title, h.id, h.operation, h.blob]
  rfl

/-- Whether a text may stand before a plain unit: prose, to the end of a line. -/
structure IsGap (gap : List Char) : Prop where
  prose : IsProse gap
  line : ∀ c ∈ gap.getLast?, c = '\n'

theorem IsPlainTitle.beginsPlainly {title : List Char} (h : IsPlainTitle title) :
    BeginsPlainly title := by
  obtain ⟨c, tail, rfl⟩ := List.exists_cons_of_ne_nil h.ne_nil
  obtain ⟨hblank, -, hstar⟩ := h.head?_eq c rfl
  refine ⟨c, tail, rfl, hblank, hstar, ?_⟩
  rintro ⟨rest, hrest⟩
  have hnone : IsDigits [] := by simp [IsDigits]
  exact h.heading ⟨[], [], [], rest, isBlanks_nil, hnone, isBlanks_nil, by simp [← hrest]⟩

section Found

variable {u : Parts} {v : PlainUnit} {gap rest after extra : List Char}

/-- Whatever is recognised from a position before a unit is that unit, but for the start of its
title. -/
theorem exists_over_of_text (hu : u.IsUnit) (hbracket : '[' ∉ gap)
    (h : u.text after = gap ++ v.written.text rest) :
    ∃ extra, u.heading ++ (u.markup ++ extra) = gap ++ v.written.opening ∧
      u.title = extra ++ v.title ∧ u.id = '#' :: 'E' :: v.index ∧ u.operation = v.operation ∧
      u.blob = v.blob ∧ after = rest := by
  have hline : '\n' ∈ v.written.title ++ v.written.beforeId := by
    simp [PlainUnit.written, Written.onTwoLines]
  obtain ⟨extra, hopening, hbreaks, hid, hoperation, hfrom⟩ :=
    assigned_of_text hu v.isWritten v.isTitle.beginsPlainly hline hbracket h
  obtain ⟨hblob, hafter⟩ := blob_of_fromBlob hu v.isWritten v.isBlob hfrom
  obtain ⟨c, hc⟩ :=
    Option.ne_none_iff_exists'.mp (List.getLast?_eq_none_iff.not.mpr v.isTitle.ne_nil)
  obtain ⟨hblank, hstar⟩ := v.isTitle.getLast?_eq c hc
  exact ⟨extra, hopening, title_of_breaks hu hc hblank hstar hbreaks, hid, hoperation, hblob,
    hafter⟩

/-- The capital of markup begins the word, up to its colon. -/
theorem exists_word_of_markup {markup front back : List Char} (h : IsMarkup markup)
    (heq : markup = front ++ 'P' :: back) : ∃ more, back = "lan:".toList ++ more := by
  obtain ⟨gap, opening, word, closing, gap', hgap, hopening, hword, hclosing, hgap', rfl⟩ := h
  have hbefore : 'P' ∉ gap ++ opening := by
    simp [hgap.notMem (show isBlank 'P' = false by decide), hopening.notMem (by decide : 'P' ∉ _)]
  have hafter : 'P' ∉ closing ++ gap' := by
    simp [hgap'.notMem (show isBlank 'P' = false by decide), hclosing.notMem (by decide : 'P' ∉ _)]
  rcases hword with rfl | rfl
  · have hmem : 'P' ∈ (gap ++ opening) ++ (closing ++ gap') := by
      have hsplit : (gap ++ opening) ++ (closing ++ gap') = front ++ 'P' :: back := by
        rw [← heq]
        simp
      rw [hsplit]
      simp
    exact absurd hmem (by rw [List.mem_append]; exact not_or.mpr ⟨hbefore, hafter⟩)
  · have hword : (gap ++ opening) ++ 'P' :: ("lan:".toList ++ (closing ++ gap')) =
        front ++ 'P' :: back := by
      rw [← heq]
      simp
    have hback : 'P' ∉ "lan:".toList ++ (closing ++ gap') := by
      rw [List.mem_append]
      exact not_or.mpr ⟨by decide, hafter⟩
    exact ⟨_, ((List.append_cons_inj_of_notMem hbefore hback).mp hword).2.2.symm⟩

/-- The capital of a heading comes after its sharp signs, and a plain heading ends with its colon.
-/
theorem front_of_heading {heading front back : List Char}
    (h : IsMarkedHeading heading ∨ IsPlainHeading heading) (heq : heading = front ++ 'P' :: back) :
    (∃ gap, IsBlanks gap ∧ front = '#' :: '#' :: gap) ∨
      front = [] ∧ ∃ gap ds, IsBlanks gap ∧ IsDigits ds ∧
        back = "lan".toList ++ gap ++ ds ++ [':'] := by
  have hblank : ∀ {gap}, IsBlanks gap → 'P' ∉ gap := fun hgap ↦ hgap.notMem (by decide)
  have hdigit : ∀ {ds}, IsDigits ds → 'P' ∉ ds := fun hds ↦ hds.notMem (by decide)
  rcases h with ⟨gap, gap', ds, colon, hgap, hgap', hds, hcolon, rfl⟩ | ⟨gap, ds, hgap, hds, rfl⟩
  · have hsplit : ('#' :: '#' :: gap) ++ 'P' :: ("lan".toList ++ gap' ++ ds ++ colon) =
        front ++ 'P' :: back := by
      rw [← heq]
      simp
    have hfront : 'P' ∉ '#' :: '#' :: gap := by simp [hblank hgap]
    have hback : 'P' ∉ "lan".toList ++ gap' ++ ds ++ colon := by
      simp [hblank hgap', hdigit hds, hcolon.notMem (by decide : 'P' ∉ _)]
    exact .inl ⟨gap, hgap, ((List.append_cons_inj_of_notMem hfront hback).mp hsplit).1.symm⟩
  · have hsplit : [] ++ 'P' :: ("lan".toList ++ gap ++ ds ++ [':']) = front ++ 'P' :: back := by
      rw [← heq]
      simp
    have hback : 'P' ∉ "lan".toList ++ gap ++ ds ++ [':'] := by
      simp [hblank hgap, hdigit hds]
    obtain ⟨hfront, -, hback⟩ :=
      (List.append_cons_inj_of_notMem List.not_mem_nil hback).mp hsplit
    exact .inr ⟨hfront.symm, gap, ds, hgap, hds, hback.symm⟩

/-- What is left of a title before a unit is its heading, whole, or blanks, unless the text before
it could begin the heading. -/
theorem over_of_opening (hu : u.IsUnit) (hgap : IsGap gap)
    (hmarks : ∀ blanks, IsBlanks blanks → gap ≠ '#' :: '#' :: blanks) (hline : '\n' ∉ extra)
    (h : u.heading ++ (u.markup ++ extra) = gap ++ v.written.opening) :
    extra = v.written.opening ∨ IsBlanks extra := by
  -- Markup cannot take the capital of the heading, because a blank follows the word there.
  have hmarkup : ∀ {front back : List Char}, u.markup = front ++ 'P' :: back →
      back ++ extra ≠ "lan".toList ++ ' ' :: (v.number ++ [':', ' ']) := by
    intro front back heq hback
    obtain ⟨more, rfl⟩ := exists_word_of_markup hu.markup heq
    exact absurd (congrArg (·[3]?) hback) (by simp)
  rw [← List.append_assoc] at h
  rcases List.append_eq_append_iff.mp h with ⟨more, hmore, hover⟩ | ⟨more, hmore, hopening⟩
  · rcases List.eq_nil_or_concat more with rfl | ⟨front, c, rfl⟩
    · exact .inl hover
    · obtain rfl : c = '\n' := hgap.line c (by simp [hmore])
      exact absurd (by simp [hover]) hline
  · rcases more with _ | ⟨c, more⟩
    · exact .inl hopening.symm
    · obtain ⟨rfl, htail⟩ : 'P' = c ∧
          "lan".toList ++ ' ' :: (v.number ++ [':', ' ']) = more ++ extra :=
        List.cons.inj (v.opening_eq.symm.trans hopening)
      rcases List.append_eq_append_iff.mp hmore with ⟨front, -, hword⟩ | ⟨front, hheading, hrest⟩
      · exact absurd htail.symm (hmarkup hword)
      · rcases front with _ | ⟨d, front⟩
        · have hword : u.markup = [] ++ 'P' :: more := hrest.symm
          exact absurd htail.symm (hmarkup hword)
        · obtain ⟨rfl, rfl⟩ := List.cons.inj hrest
          have hkind : IsMarkedHeading u.heading ∨ IsPlainHeading u.heading :=
            hu.heading.resolve_left (by simp [hheading])
          rcases front_of_heading hkind hheading with
            ⟨blanks, hblanks, hsharp⟩ | ⟨-, blanks, ds, hblanks, hds, rfl⟩
          · exact absurd hsharp (hmarks blanks hblanks)
          · refine .inr fun c hc ↦ ?_
            have hsplit : ("lan".toList ++ ' ' :: v.number) ++ ':' :: [' '] =
                ("lan".toList ++ blanks ++ ds) ++ ':' :: (u.markup ++ extra) := by
              simpa using htail
            have hnumber : ':' ∉ "lan".toList ++ ' ' :: v.number := by
              simp [v.isNumber.2.notMem (show isDigit ':' = false by decide)]
            obtain ⟨-, -, hblank⟩ :=
              (List.append_cons_inj_of_notMem hnumber (by simp)).mp hsplit
            have hmem : c ∈ [' '] := by
              rw [hblank]
              exact List.mem_append_right _ hc
            rw [List.mem_singleton.mp hmem]
            rfl

/-- A heading that begins in the text before a unit is taken as far as it goes. -/
theorem run_heading_of_marks {blanks text : List Char} {k : Continue} {marks : Marks}
    (hblanks : IsBlanks blanks) (h : k text.length text = some marks) :
    (optional heading).run k ('#' :: '#' :: blanks ++ (v.written.marker ++ text)).length
      ('#' :: '#' :: blanks ++ (v.written.marker ++ text)) = some marks := by
  have hcapital : ∀ c ∈ ("Plan".toList ++ ([' '] ++ (v.number ++ ':' :: text))).head?,
      isBlank c = false := by
    rintro c ⟨⟩
    decide
  have htext : '#' :: '#' :: blanks ++ (v.written.marker ++ text) = "##".toList ++ (blanks ++
      ("Plan".toList ++ ([' '] ++ (v.number ++ ':' :: text)))) := by
    simp [Written.marker, PlainUnit.written, Written.onTwoLines]
  rw [htext]
  refine run_optional_of_some (run_either_of_some ?_)
  exact (run_literal "##" _).trans <| run_many_one hblanks hcapital <|
    run_numbered isBlanks_space v.isNumber (isDigit_head_colon isBlanks_nil text) <|
      run_optional_of_some <| (run_char_cons ':' text).trans h

/-- Where a heading begins in the text before a unit, the unit is found with all of it. -/
theorem first?_of_marks {blanks : List Char} (hblanks : IsBlanks blanks) :
    ∃ u : Parts, u.IsUnit ∧ u.heading = '#' :: '#' :: blanks ++ v.written.marker ∧
      ∃ after, '#' :: '#' :: blanks ++ v.written.text rest = u.text after ∧
        unit.first? ('#' :: '#' :: blanks ++ v.written.text rest) = some (u.found after) := by
  let tail := [' '] ++ (v.title ++ (v.written.beforeId ++ v.written.fromId rest))
  have htext : '#' :: '#' :: blanks ++ v.written.text rest =
      ('#' :: '#' :: blanks ++ v.written.marker) ++ tail := by
    simp [tail, Written.text, Written.fromTitle, Written.opening, PlainUnit.written,
      Written.onTwoLines]
  obtain ⟨marks, hbody⟩ :
      ∃ marks, body.run ((Pattern.mark endMark).run finish) tail.length tail = some marks := by
    obtain ⟨noted, htakes⟩ := exists_takes_body v.isWritten v.isBlob rest
      v.isWritten.beforeTitle v.isTitle.line
    have hsome : (body.run ((Pattern.mark endMark).run finish) _ _).isSome :=
      isSome_run_of_takes htakes rfl
    rw [List.append_assoc, List.append_assoc, List.append_assoc, Written.fromId_append] at hsome
    exact Option.isSome_iff_exists.mp hsome
  have hmarked : IsMarkedHeading ('#' :: '#' :: blanks ++ v.written.marker) :=
    ⟨blanks, [' '], v.number, [':'], hblanks, v.isWritten.beforeNumber, v.isNumber.2, .inr rfl,
      by simp [Written.marker, PlainUnit.written, Written.onTwoLines]⟩
  obtain ⟨u, after, hu, hheading, hwhole, -, hfirst⟩ :=
    exists_unit_of_heading (.inl hmarked)
      (fun h ↦ by simpa using run_heading_of_marks (v := v) hblanks h) hbody
  rw [← htext] at hwhole hfirst
  exact ⟨u, hu, hheading, after, hwhole, hfirst⟩

/-- What is found from a position before a unit, or where it begins, is that unit. -/
theorem shows_of_found {found : Match} (hgap : IsGap gap)
    (h : unit.first? (gap ++ v.written.text rest) = some found) :
    ∃ u, Shows u v ∧ gap ++ v.written.text rest = u.text rest ∧ found = u.found rest := by
  by_cases hmarks : ∃ blanks, IsBlanks blanks ∧ gap = '#' :: '#' :: blanks
  · obtain ⟨blanks, hblanks, rfl⟩ := hmarks
    obtain ⟨u, hu, hheading, after, htext, hfirst⟩ := first?_of_marks (v := v) hblanks
    obtain ⟨extra, hover, htitle, hid, hoperation, hblob, rfl⟩ :=
      exists_over_of_text hu hgap.prose.bracket htext.symm
    have hspace : u.markup ++ extra = [' '] := by
      rw [hheading, Written.opening, List.append_assoc] at hover
      exact List.append_cancel_left (List.append_cancel_left hover)
    have hblank : IsBlanks extra := fun c hc ↦ by
      have hmem : c ∈ [' '] := hspace ▸ List.mem_append_right _ hc
      rw [List.mem_singleton.mp hmem]
      rfl
    refine ⟨u, ⟨hu, ?_, hid, hoperation, hblob⟩, htext, Option.some.inj (h.symm.trans hfirst)⟩
    rw [htitle, cleanTitle_plain v.isTitle hblank]
  · obtain ⟨taken, after, marks, htext, htakes, rfl⟩ := exists_takes_of_first? (by decide) h
    obtain ⟨u, hu, rfl, rfl⟩ := exists_parts_of_takes htakes
    rw [u.text_append] at htext
    obtain ⟨extra, hover, htitle, hid, hoperation, hblob, rfl⟩ :=
      exists_over_of_text hu hgap.prose.bracket htext.symm
    have hline : '\n' ∉ extra := fun hmem ↦ hu.title (by simp [htitle, hmem])
    refine ⟨u, ⟨hu, ?_, hid, hoperation, hblob⟩, htext, rfl⟩
    rcases over_of_opening hu hgap (fun blanks hblanks heq ↦ hmarks ⟨blanks, hblanks, heq⟩) hline
      hover with rfl | hblank
    · rw [htitle, PlainUnit.opening_eq]
      exact cleanTitle_headed v.isTitle v.isWritten.beforeNumber v.isNumber
        v.isWritten.beforeColon v.isWritten.beforeTitle
    · rw [htitle, cleanTitle_plain v.isTitle hblank]

/-- A unit can be recognised where it begins. -/
theorem isSome_first?_written (v : PlainUnit) (rest : List Char) :
    (unit.first? (v.written.text rest)).isSome := by
  have hline : '\n' ∉ v.written.opening ++ v.title := by
    simp [PlainUnit.opening_eq, v.isNumber.2.notMem (show isDigit '\n' = false by decide),
      v.isTitle.line]
  have hfirst := isSome_first?_of_written v.isWritten v.isBlob isBlanks_nil hline rest
  rwa [List.nil_append, List.append_assoc] at hfirst

theorem IsGap.tail {c : Char} (h : IsGap (c :: gap)) : IsGap gap := by
  refine ⟨h.prose.suffix (List.suffix_cons c gap), fun d hd ↦ h.line d ?_⟩
  cases gap with
  | nil => cases hd
  | cons e gap => exact hd

/-- A match before a unit is the match of the unit, and the search goes on behind it. -/
theorem findAll_of_found {found : Match} (hgap : IsGap gap)
    (h : unit.first? (gap ++ v.written.text rest) = some found) :
    ∃ u, Shows u v ∧ gap ++ v.written.text rest = u.text rest ∧
      unit.findAll (gap ++ v.written.text rest) = u.found rest :: unit.findAll rest := by
  obtain ⟨u, hshows, htext, rfl⟩ := shows_of_found hgap h
  refine ⟨u, hshows, htext, ?_⟩
  rw [htext, ← u.text_append] at h ⊢
  exact findAll_found (u.text_ne_nil []) h rfl

/-- The text before a unit is passed over, and the unit is found next. -/
theorem findAll_gap (hgap : IsGap gap) :
    ∃ skipped u, Shows u v ∧ gap ++ v.written.text rest = skipped ++ u.text rest ∧
      skipped.length ≤ gap.length ∧
      unit.findAll (gap ++ v.written.text rest) = u.found rest :: unit.findAll rest := by
  induction gap with
  | nil =>
    obtain ⟨found, hfirst⟩ := Option.isSome_iff_exists.mp (isSome_first?_written v rest)
    obtain ⟨u, hshows, htext, hfind⟩ := findAll_of_found hgap hfirst
    exact ⟨[], u, hshows, htext, Nat.le_refl 0, hfind⟩
  | cons c gap ih =>
    cases hfirst : unit.first? (c :: (gap ++ v.written.text rest)) with
    | some found =>
      obtain ⟨u, hshows, htext, hfind⟩ := findAll_of_found hgap hfirst
      exact ⟨[], u, hshows, htext, Nat.zero_le _, hfind⟩
    | none =>
      obtain ⟨skipped, u, hshows, htext, hlength, hfind⟩ := ih hgap.tail
      refine ⟨c :: skipped, u, hshows, by simp [htext], by simpa using hlength, ?_⟩
      rw [List.cons_append, findAll_skip first?_nil hfirst, hfind]

end Found

/-! ### Texts in the plain form -/

/-- Whether a text is made of gaps and plain units, and prose at its end. -/
inductive Embeds : List PlainUnit → List Char → Prop
  | nil {prose : List Char} (hprose : IsProse prose) : Embeds [] prose
  | cons {v : PlainUnit} {units : List PlainUnit} {gap rest : List Char} (hgap : IsGap gap)
      (hrest : Embeds units rest) : Embeds (v :: units) (gap ++ v.written.text rest)

section Embeds

variable {units : List PlainUnit} {text : List Char}

/-- Nothing is found in prose. -/
theorem findAll_prose (h : IsProse text) : unit.findAll text = [] := by
  refine List.eq_nil_iff_forall_not_mem.mpr fun place hplace ↦ ?_
  obtain ⟨before, taken, marks, after, rfl, -, htakes, -⟩ := (finds_units text).exists_takes hplace
  obtain ⟨u, -, rfl, -⟩ := exists_parts_of_takes htakes
  refine h.bracket ?_
  simp [Parts.text, Parts.fromTitle, Parts.fromId, Parts.fromOperation]

/-- No marker begins in front of a unit, not even one that would end in it. -/
theorem length_le_of_marker {v : PlainUnit} {gap rest before marker after : List Char}
    (hgap : IsGap gap) (htext : gap ++ v.written.text rest = before ++ (marker ++ after))
    (hmarker : IsMarker marker) : gap.length ≤ before.length := by
  rcases List.append_eq_append_iff.mp htext with ⟨more, rfl, -⟩ | ⟨front, rfl, hfront⟩
  · simp
  rcases List.append_eq_append_iff.mp hfront with ⟨more, rfl, -⟩ | ⟨more, rfl, hmore⟩
  · exact absurd hmarker (hgap.prose.marker before marker more rfl)
  · rcases front with _ | ⟨c, front⟩
    · simp
    · obtain ⟨d, tail, hcons, -, hothers⟩ := hmarker.exists_cons
      have hcapital : (v.written.text rest).head? = some 'P' := rfl
      rcases more with _ | ⟨e, more⟩
      · refine absurd hmarker (hgap.prose.marker before _ [] ?_)
        simp
      · rw [hmore] at hcapital
        obtain rfl : e = 'P' := by simpa using hcapital
        refine absurd (.inr rfl) (hothers 'P' ?_)
        rw [← (List.cons.inj hcons).2]
        simp

/-- A plain unit is found after a gap. -/
theorem Yields.plainUnit {v : PlainUnit} {steps : List Step} {gap rest : List Char}
    (hgap : IsGap gap) (h : Yields steps rest) :
    Yields (v.step :: steps) (gap ++ v.written.text rest) := by
  obtain ⟨skipped, u, hshows, htext, hlength, hfind⟩ := findAll_gap (v := v) hgap
  have htitle : cleanTitle u.title ≠ [] := by
    rw [hshows.title]
    exact v.isTitle.ne_nil
  rw [← hshows.step_eq]
  rw [htext] at hfind ⊢
  refine .cons hshows.isUnit htitle hfind (fun before marker after heq hmarker ↦ ?_) h
  exact hlength.trans (length_le_of_marker hgap (htext.trans heq) hmarker)

theorem yields_prose (h : IsProse text) : Yields [] text :=
  .nil (findAll_prose h) h.marker

/-- The units of a text are found one after another. -/
theorem Embeds.yields (h : Embeds units text) : Yields (units.map PlainUnit.step) text := by
  induction h with
  | nil hprose => exact yields_prose hprose
  | cons hgap _ ih => exact ih.plainUnit hgap

end Embeds

/-- Prose between the units. -/
structure Prose where
  /-- The lines. -/
  text : List Char
  isProse : IsProse text

/-- A text in the plain form. -/
structure PlainText where
  /-- The prose before the units, if there is any. -/
  lead : Option Prose
  /-- The units, each with the prose after it, if there is any. -/
  units : List (PlainUnit × Option Prose)
  ne_nil : units ≠ []

/-- Prose as a list of blocks. -/
def proseBlocks (prose : Option Prose) : List (List Char) :=
  (prose.map Prose.text).toList

/-- The blocks of units and of the prose after them. -/
def unitBlocks (units : List (PlainUnit × Option Prose)) : List (List Char) :=
  units.flatMap fun unit ↦ unit.1.text :: proseBlocks unit.2

namespace PlainText

variable (t : PlainText)

/-- The whole text, one block after another on lines of its own. -/
def text : String :=
  String.ofList (['\n'].intercalate (proseBlocks t.lead ++ unitBlocks t.units))

/-- The plan that a text in the plain form stands for. -/
def plan : Plan where
  steps := t.units.map fun unit ↦ unit.1.step
  rawText := t.text

end PlainText

theorem intercalate_cons {block : List Char} {blocks : List (List Char)} (h : blocks ≠ []) :
    ['\n'].intercalate (block :: blocks) = block ++ '\n' :: ['\n'].intercalate blocks := by
  obtain ⟨next, blocks, rfl⟩ := List.exists_cons_of_ne_nil h
  simp [List.intercalate]

theorem isProse_behind (prose : Option Prose) :
    IsProse ((proseBlocks prose).flatMap fun block ↦ '\n' :: block) := by
  cases prose with
  | none => exact isProse_nil
  | some prose => simpa [proseBlocks] using prose.isProse.cons_line

/-- The text after a unit is its prose, and a line break in front of the next block. -/
theorem intercalate_unit (v : PlainUnit) (prose : Option Prose) (blocks : List (List Char)) :
    ['\n'].intercalate (v.text :: proseBlocks prose ++ blocks) =
      v.written.text ((proseBlocks prose).flatMap (fun block ↦ '\n' :: block) ++
        if blocks = [] then [] else '\n' :: ['\n'].intercalate blocks) := by
  rw [← v.text_append]
  by_cases hblocks : blocks = []
  · cases prose <;> simp [hblocks, proseBlocks, List.intercalate]
  · cases prose with
    | none => simp [hblocks, proseBlocks, intercalate_cons hblocks]
    | some prose =>
      have hne : prose.text :: blocks ≠ [] := List.cons_ne_nil _ _
      simp [hblocks, proseBlocks, intercalate_cons hne, intercalate_cons hblocks]

theorem isGap_line {prose : List Char} (h : IsProse prose) : IsGap (prose ++ ['\n']) :=
  ⟨h.append_line, by simp⟩

theorem embeds_units {units : List (PlainUnit × Option Prose)} (hne : units ≠ []) {gap : List Char}
    (hgap : IsGap gap) :
    Embeds (units.map Prod.fst) (gap ++ ['\n'].intercalate (unitBlocks units)) := by
  induction units generalizing gap with
  | nil => exact absurd rfl hne
  | cons unit units ih =>
    obtain ⟨v, prose⟩ := unit
    have hprose := isProse_behind prose
    have hblocks : unitBlocks ((v, prose) :: units) =
        v.text :: proseBlocks prose ++ unitBlocks units := rfl
    rw [hblocks, intercalate_unit]
    refine .cons hgap ?_
    rcases units with _ | ⟨next, units⟩
    · simpa [unitBlocks] using Embeds.nil hprose
    · have hrest := ih (List.cons_ne_nil next units) (isGap_line hprose)
      have hmore : unitBlocks (next :: units) ≠ [] := by simp [unitBlocks]
      simpa [hmore] using hrest

theorem PlainText.embeds (t : PlainText) :
    Embeds (t.units.map Prod.fst) t.text.toList := by
  have hblocks : unitBlocks t.units ≠ [] := by
    obtain ⟨unit, units, hunits⟩ := List.exists_cons_of_ne_nil t.ne_nil
    simp [hunits, unitBlocks]
  rw [text, String.toList_ofList]
  cases hlead : t.lead with
  | none => exact embeds_units t.ne_nil ⟨isProse_nil, by simp⟩
  | some prose =>
    have hunits := embeds_units t.ne_nil (isGap_line prose.isProse)
    simpa [proseBlocks, intercalate_cons hblocks] using hunits

/-- A text in the plain form is read as the plan of its units. -/
theorem parse_plainText (t : PlainText) : parse t.text = .ok t.plan := by
  have hyields := t.embeds.yields
  rw [List.map_map] at hyields
  exact parse_of_yields hyields (by simpa using t.ne_nil)

/-- Two units with prose before and between them; braces stand inside the braces of the first. -/
theorem parse_plainText_of_two :
    let text := "Here we go.\nPlan 1: count\n#E1 = Count[\x7b\"of\": \x7b\x7d\x7d]\n\nThen:\n" ++
      "Plan 02: say\n#E2 = LLM[\x7b#E1\x7d]"
    parse text = .ok ⟨[⟨"count", "#E1", "Count", "\x7b\"of\": \x7b\x7d\x7d"⟩,
      ⟨"say", "#E2", "LLM", "\x7b#E1\x7d"⟩], text⟩ := by
  intro text
  let count : PlainUnit :=
    { number := ['1']
      title := "count".toList
      index := ['1']
      operation := "Count".toList
      blob := "\x7b\"of\": \x7b\x7d\x7d".toList
      isNumber := by decide
      isTitle := isPlainTitle_of_name (by decide +kernel) (by decide +kernel)
      isIndex := by decide
      isOperation := by decide +kernel
      isBlob := by decide +kernel }
  let say : PlainUnit :=
    { number := ['0', '2']
      title := "say".toList
      index := ['2']
      operation := "LLM".toList
      blob := "\x7b#E1\x7d".toList
      isNumber := by decide
      isTitle := isPlainTitle_of_name (by decide +kernel) (by decide +kernel)
      isIndex := by decide
      isOperation := by decide +kernel
      isBlob := by decide +kernel }
  let lead : Prose := ⟨"Here we go.".toList,
    isProse_of_notMem (by decide +kernel) (by decide +kernel) (by decide +kernel)⟩
  let between : Prose := ⟨"\nThen:".toList,
    isProse_of_notMem (by decide +kernel) (by decide +kernel) (by decide +kernel)⟩
  let written : PlainText :=
    { lead := some lead
      units := [(count, some between), (say, none)]
      ne_nil := List.cons_ne_nil _ _ }
  have htext : written.text = text := by decide +kernel
  have hplan : written.plan = ⟨[⟨"count", "#E1", "Count", "\x7b\"of\": \x7b\x7d\x7d"⟩,
      ⟨"say", "#E2", "LLM", "\x7b#E1\x7d"⟩], text⟩ := by
    rw [PlainText.plan, htext]
    simp [written, PlainUnit.step, count, say]
  rw [← hplan, ← htext]
  exact parse_plainText written

/-- A title that begins with a heading without a number is not plain: that heading is taken for the
one that may stand before a title, and the step loses it. -/
theorem parse_unnumbered_heading :
    let title := "Plan: foo".toList
    (title ≠ [] ∧ '\n' ∉ title ∧ '[' ∉ title ∧ trim title = title ∧
      (∀ c ∈ title.head?, c ≠ '#' ∧ c ≠ '*') ∧ (∀ c ∈ title.getLast?, c ≠ '*') ∧
      ¬ ∃ gap number gap' rest, IsBlanks gap ∧ (number ≠ [] ∧ IsDigits number) ∧ IsBlanks gap' ∧
        title = "Plan".toList ++ (gap ++ (number ++ (gap' ++ ':' :: rest)))) ∧
      parse "Plan 1: Plan: foo\n#E1 = Op[\x7b\x7d]" ≠
        .ok ⟨[⟨String.ofList title, "#E1", "Op", "\x7b\x7d"⟩],
          "Plan 1: Plan: foo\n#E1 = Op[\x7b\x7d]"⟩ := by
  refine ⟨⟨by decide, by decide, by decide, by decide, ?_, ?_, ?_⟩, ?_⟩
  · intro c hc
    obtain rfl : 'P' = c := Option.some.inj hc
    decide
  · intro c hc
    obtain rfl : 'o' = c := Option.some.inj hc
    decide
  · rintro ⟨gap, number, gap', rest, hgap, ⟨hne, hnumber⟩, hgap', heq⟩
    have hword : "Plan".toList ++ ':' :: " foo".toList =
        "Plan".toList ++ (gap ++ (number ++ (gap' ++ ':' :: rest))) := heq
    have htail := List.append_cancel_left hword
    rcases gap with _ | ⟨c, gap⟩
    · obtain ⟨d, digits, rfl⟩ := List.exists_cons_of_ne_nil hne
      obtain ⟨rfl, -⟩ := List.cons.inj htail
      exact absurd (hnumber ':' List.mem_cons_self) (by decide)
    · obtain ⟨rfl, -⟩ := List.cons.inj htail
      exact absurd (hgap ':' List.mem_cons_self) (by decide)
  · have hread : (parse "Plan 1: Plan: foo\n#E1 = Op[\x7b\x7d]").toOption =
        some ⟨[⟨"foo", "#E1", "Op", "\x7b\x7d"⟩], "Plan 1: Plan: foo\n#E1 = Op[\x7b\x7d]"⟩ := by
      decide +kernel
    rw [parse_of_toOption hread]
    decide

end Errand.Plan
