import Errand.Proofs.Plan.PlainForm

/-!
# Units without a title

A unit has to have a title. A bare unit has none: its heading is all that stands on its first line.
At the start of a text the heading is taken for a heading, no title is left, and nothing is read
(`parse_bare`). Everywhere else the match begins at the line break before the unit, where no heading
can begin. Then the heading is what is taken for the title, and because it would vanish when it is
cleaned it is kept as it is. So a bare unit that is not the first one is read as a step, with its
heading for a title (`Yields.bareUnit`). `parse_headed` puts the two together. Whether a list of
units is read depends on its first unit alone.
-/

set_option autoImplicit false

namespace Errand.Plan

open Text Text.Pattern

/-! ### Bare units -/

/-- A unit in the plain form without a title. -/
structure BareUnit where
  /-- The number in the heading. -/
  number : List Char
  /-- The digits of the step id. -/
  index : List Char
  /-- The operation. -/
  operation : List Char
  /-- The parameters. -/
  blob : List Char
  isNumber : number ≠ [] ∧ IsDigits number
  isIndex : index ≠ [] ∧ IsDigits index
  isOperation : IsName operation
  isBlob : IsGroup 2 blob

namespace BareUnit

variable (v : BareUnit)

/-- The heading. -/
def heading : List Char :=
  "Plan".toList ++ ' ' :: (v.number ++ [':'])

/-- The lines of a unit. -/
def text : List Char :=
  v.heading ++ '\n' :: '#' :: 'E' ::
    (v.index ++ ' ' :: '=' :: ' ' :: (v.operation ++ '[' :: (v.blob ++ [']'])))

/-- The step that a unit stands for if it is read as one. -/
def step : Step where
  title := String.ofList v.heading
  id := String.ofList ('#' :: 'E' :: v.index)
  operation := String.ofList v.operation
  template := String.ofList v.blob

/-- The parts of a unit with the blanks between them. -/
def written : Written :=
  .onTwoLines v.number [] v.index v.operation v.blob

theorem isWritten : v.written.IsWritten :=
  Written.isWritten_onTwoLines v.isNumber List.not_mem_nil v.isIndex v.isOperation v.isBlob.head?

theorem text_append (rest : List Char) :
    v.text ++ rest = v.heading ++ ('\n' :: v.written.fromId rest) := by
  simp [text, written, Written.onTwoLines, Written.fromId, Written.assignment, Written.fromBlob]

theorem heading_eq : v.heading = "Plan".toList ++ ([' '] ++ (v.number ++ ([] ++ [':']))) := by
  simp [heading]

/-- The heading is no markup of a title, because it is all there is. -/
theorem cleanTitle_heading : cleanTitle v.heading = v.heading := by
  rw [heading_eq]
  exact Plan.cleanTitle_heading isBlanks_space v.isNumber isBlanks_nil

/-- A number stands between the word and the colon, so a heading is not the bare word. -/
theorem beginsPlainly (rest : List Char) : BeginsPlainly (v.heading ++ rest) := by
  refine ⟨'P', _, rfl, by decide, by decide, ?_⟩
  rintro ⟨more, hmore⟩
  exact absurd (congrArg (·[4]?) hmore) (by simp [heading])

theorem getLast?_heading : v.heading.getLast? = some ':' := by
  simp [heading, List.getLast?_append, List.getLast?_cons]

theorem notMem_heading {c : Char} (hword : c ∉ "Plan :".toList) (hdigit : isDigit c = false) :
    c ∉ v.heading := by
  simp only [heading, List.mem_append, List.mem_cons, List.not_mem_nil, or_false, not_or,
    v.isNumber.2.notMem hdigit, not_false_eq_true, true_and]
  simpa [and_assoc] using hword

end BareUnit

/-! ### At the start of a text -/

section Start

variable {v : BareUnit} {rest : List Char}

/-- A plain heading is taken for one, if the rest leads on. -/
theorem run_heading_of_plain {k : Continue} {text : List Char} {marks : Marks}
    (h : k text.length text = some marks) :
    (optional heading).run k (v.heading ++ text).length (v.heading ++ text) = some marks := by
  have htext : v.heading ++ text = "Plan".toList ++ ([' '] ++ (v.number ++ ':' :: text)) := by
    simp [BareUnit.heading]
  rw [htext]
  refine run_optional_of_some ((run_either_of_none ?_).trans ?_)
  · refine run_char_of_ne ?_
    rintro c ⟨⟩
    decide
  · exact run_numbered isBlanks_space v.isNumber (isDigit_head_colon isBlanks_nil text) <|
      (run_char_cons ':' text).trans h

/-- What follows a title in the pattern of units. -/
def untitled : Pattern :=
  .seq (.many (.either (char '\n') (.seq blanks (literal "**")))) <|
    .seq blanks <| .seq emphasis named

/-- The shortest title is tried first, and it is none where a unit can go on without one. -/
theorem exists_run_titled {k : Continue} {text : List Char}
    (h : (untitled.run k text.length text).isSome) :
    ∃ later, titled.run k text.length text =
      some ((1, text.length) :: (2, text.length) :: later) := by
  obtain ⟨later, hlater⟩ := Option.isSome_iff_exists.mp h
  refine ⟨later, ?_⟩
  change Option.map ((1, text.length) :: ·) ((Pattern.few (.one (· != '\n'))).run
    ((Pattern.mark 2).run (untitled.run k)) text.length text) = _
  rw [run_few, run, hlater]
  rfl

/-- A line break is passed over between a heading and what follows it. -/
theorem run_body_of_line {k : Continue} {text : List Char} {marks : Marks}
    (hhead : ∀ c ∈ text.head?, isBlank c = false ∧ c ≠ '*' ∧ c ≠ 'P')
    (h : titled.run k text.length text = some marks) :
    body.run k (['\n'] ++ text).length (['\n'] ++ text) = some marks := by
  have hnone : (literal "Plan:").run ((Pattern.seq emphasis (.seq blanks titled)).run k)
      text.length text = none := run_char_of_ne fun c hc ↦ (hhead c hc).2.2
  refine run_many_one isBlanks_line (fun c hc ↦ (hhead c hc).1) ?_
  rw [run, run_emphasis fun c hc ↦ (hhead c hc).2.1, run, run_optional_of_none hnone, run,
    run_emphasis fun c hc ↦ (hhead c hc).2.1]
  exact run_many_one isBlanks_nil (fun c hc ↦ (hhead c hc).1) h

/-- After the heading of a bare unit, the rest of the unit is matched without a title. -/
theorem exists_run_body (v : BareUnit) (rest : List Char) :
    ∃ length later, body.run ((Pattern.mark endMark).run finish)
      ('\n' :: v.written.fromId rest).length ('\n' :: v.written.fromId rest) =
        some ((1, length) :: (2, length) :: later) := by
  have hhead : ∀ c ∈ (v.written.fromId rest).head?, isBlank c = false ∧ c ≠ '*' ∧ c ≠ 'P' := by
    rintro c ⟨⟩
    decide
  obtain ⟨noted, htakes⟩ : ∃ noted, untitled.Takes (v.written.fromId []) noted rest :=
    @exists_takes_seq _ _ [] _ _ ⟨[], .manyNil⟩ <|
      @exists_takes_seq _ _ [] _ _ (exists_takes_blanks isBlanks_nil) <|
        @exists_takes_seq _ _ [] _ _ (exists_takes_nothing _ _) <|
          exists_takes_named v.isWritten v.isBlob rest
  have hsome : (untitled.run ((Pattern.mark endMark).run finish) _ _).isSome :=
    isSome_run_of_takes htakes rfl
  rw [Written.fromId_append] at hsome
  obtain ⟨later, hlater⟩ := exists_run_titled hsome
  exact ⟨_, later, run_body_of_line hhead hlater⟩

/-- A text that begins with a bare unit begins with a match that has no title. -/
theorem exists_untitled_found (v : BareUnit) (rest : List Char) :
    ∃ u : Parts, u.IsUnit ∧ u.title = [] ∧ v.text ++ rest = u.text rest ∧
      unit.findAll (v.text ++ rest) = u.found rest :: unit.findAll rest := by
  obtain ⟨length, later, hbody⟩ := exists_run_body v rest
  have hkind : IsPlainHeading v.heading :=
    ⟨[' '], v.number, isBlanks_space, v.isNumber.2, by simp [BareUnit.heading]⟩
  obtain ⟨u, after, hu, hheading, htext, hmarks, hfirst⟩ :=
    exists_unit_of_heading (.inr hkind) run_heading_of_plain hbody
  have htitle : u.title = [] := by
    simp only [Parts.marks, List.cons_append, List.cons.injEq, Prod.mk.injEq, true_and] at hmarks
    have hlength := hmarks.1.symm.trans hmarks.2.1
    rw [Parts.fromTitle, List.length_append] at hlength
    exact List.eq_nil_of_length_eq_zero (by omega)
  have hbehind : u.markup ++ (u.breaks ++ u.fromId after) = ['\n'] ++ v.written.fromId rest := by
    rw [Parts.text, hheading, Parts.fromTitle, htitle] at htext
    exact (List.append_cancel_left htext).symm
  have hplain : BeginsPlainly (v.written.fromId rest) := by
    refine ⟨'#', _, rfl, by decide, by decide, ?_⟩
    rintro ⟨more, hmore⟩
    exact absurd (List.cons.inj hmore).1 (by decide)
  obtain ⟨extra, hfrom, hline⟩ :=
    exists_over_markup hu.markup isBlanks_line hplain hbehind
  have hextra : '[' ∉ extra := fun hmem ↦ by
    have hmem' : '[' ∈ ['\n'] := hline ▸ List.mem_append_right _ hmem
    exact absurd hmem' (by decide)
  obtain ⟨-, -, -, hblob⟩ := assigned_of_rest hu v.isWritten hextra hfrom
  obtain ⟨-, rfl⟩ := blob_of_fromBlob hu v.isWritten v.isBlob hblob
  rw [v.text_append, htext] at *
  refine ⟨u, hu, htitle, rfl, ?_⟩
  rw [← u.text_append] at hfirst ⊢
  exact findAll_found (u.text_ne_nil []) hfirst rfl

/-- A text that begins with a bare unit is not read, whatever follows the unit. -/
theorem parse_bare (v : BareUnit) (rest : List Char) :
    parse (String.ofList (v.text ++ rest)) = .error (.malformedUnit (String.ofList v.text)) := by
  obtain ⟨u, hu, htitle, htext, hfind⟩ := exists_untitled_found v rest
  have hunit : u.text [] = v.text := by
    rw [← u.text_append] at htext
    exact (List.append_cancel_right htext).symm
  have htrim : trim v.text = v.text := by
    refine trim_eq_self ?_ fun c hc ↦ ?_
    · rintro c ⟨⟩
      decide
    · have hlast : v.text.getLast? = some ']' := by
        simp [BareUnit.text, List.getLast?_append, List.getLast?_cons]
      obtain rfl := Option.some.inj (hlast.symm.trans hc)
      decide
  have hstep := stepOf_eq hu [] rest
  rw [htitle, if_pos (by decide), hunit, htrim, List.nil_append, ← htext] at hstep
  unfold parse
  simp only [String.toList_ofList, hfind, List.mapM_cons, hstep, bind, Except.bind]

end Start

/-! ### Behind a line break -/

/-- A line break and a bare unit are a match, and its title is the heading. -/
theorem exists_headed_found (v : BareUnit) (rest : List Char) :
    ∃ u : Parts, u.IsUnit ∧ u.title = v.heading ∧ u.step = v.step ∧
      '\n' :: (v.text ++ rest) = u.text rest ∧
      unit.findAll ('\n' :: (v.text ++ rest)) = u.found rest :: unit.findAll rest := by
  have hnone : '\n' ∉ v.heading := v.notMem_heading (by decide) (by decide)
  have hfirst := isSome_first?_of_written v.isWritten v.isBlob isBlanks_line hnone rest
  have hwhole : ['\n'] ++ (v.heading ++ (v.written.beforeId ++ v.written.fromId rest)) =
      '\n' :: (v.text ++ rest) := by
    rw [v.text_append]
    rfl
  rw [hwhole] at hfirst
  obtain ⟨u, after, hu, htext, hfind⟩ := exists_unit_of_isSome hfirst
  have hheading : u.heading = [] :=
    heading_eq_nil_of_head hu htext.symm (by decide) (by decide)
  have hbehind : u.markup ++ u.fromTitle after =
      ['\n'] ++ (v.heading ++ '\n' :: v.written.fromId rest) := by
    rw [Parts.text, hheading, v.text_append] at htext
    exact htext.symm
  obtain ⟨extra, hfrom, hextra⟩ :=
    exists_over_markup hu.markup isBlanks_line (v.beginsPlainly _) hbehind
  have honly : ∀ c ∈ extra, c = '\n' := fun c hc ↦ by
    have hmem : c ∈ ['\n'] := hextra ▸ List.mem_append_right _ hc
    exact List.mem_singleton.mp hmem
  have hbracket : '[' ∉ extra ++ (v.heading ++ ['\n']) := by
    simp only [List.mem_append, List.mem_singleton, not_or]
    exact ⟨fun hmem ↦ absurd (honly _ hmem) (by decide),
      v.notMem_heading (by decide) (by decide), by decide⟩
  obtain ⟨hbreaks, hid, hoperation, hblob⟩ :=
    assigned_of_front hu v.isWritten (by simp) hbracket (by simpa using hfrom)
  obtain ⟨hblob', rfl⟩ := blob_of_fromBlob hu v.isWritten v.isBlob hblob
  have htitle : u.title = extra ++ v.heading :=
    title_of_breaks hu v.getLast?_heading (by decide) (by decide) hbreaks
  obtain rfl : extra = [] := List.eq_nil_iff_forall_not_mem.mpr fun c hc ↦ by
    obtain rfl := honly c hc
    exact hu.title (by simp [htitle, hc])
  rw [List.nil_append] at htitle
  have hstep : u.step = v.step := by
    rw [Parts.step, htitle, hid, hoperation, hblob', v.cleanTitle_heading]
    rfl
  exact ⟨u, hu, htitle, hstep, htext, hfind⟩

/-- A bare unit that is not the first one is found as a step with its heading for a title. -/
theorem Yields.bareUnit {v : BareUnit} {steps : List Step} {rest : List Char}
    (h : Yields steps rest) : Yields (v.step :: steps) ('\n' :: (v.text ++ rest)) := by
  obtain ⟨u, hu, htitle, hstep, htext, hfind⟩ := exists_headed_found v rest
  have hne : cleanTitle u.title ≠ [] := by
    rw [htitle, v.cleanTitle_heading]
    simp [BareUnit.heading]
  rw [← hstep]
  rw [htext] at hfind ⊢
  exact @Yields.cons u steps [] rest hu hne hfind (fun _ _ _ _ _ ↦ Nat.zero_le _) h

/-! ### Lists of units -/

/-- A unit in the plain form, with a title or without one. -/
inductive HeadedUnit
  /-- A unit with a title. -/
  | titled (v : PlainUnit)
  /-- A unit without one. -/
  | bare (v : BareUnit)

namespace HeadedUnit

/-- The lines of a unit. -/
def text : HeadedUnit → List Char
  | titled v => v.text
  | bare v => v.text

/-- The step that a unit stands for if it is read as one. -/
def step : HeadedUnit → Step
  | titled v => v.step
  | bare v => v.step

/-- The text of units, one after another on lines of their own. -/
def sheet (first : HeadedUnit) (units : List HeadedUnit) : String :=
  String.ofList (first.text ++ units.flatMap fun unit ↦ '\n' :: unit.text)

end HeadedUnit

/-- Units behind a line break are all found, also those without a title. -/
theorem yields_units (units : List HeadedUnit) :
    Yields (units.map HeadedUnit.step) (units.flatMap fun unit ↦ '\n' :: unit.text) := by
  induction units with
  | nil => exact yields_prose isProse_nil
  | cons unit units ih =>
    rw [List.map_cons, List.flatMap_cons]
    cases unit with
    | titled v =>
      have hunit := ih.plainUnit (v := v) ⟨isProse_nil.cons_line, by simp⟩
      simpa [HeadedUnit.text, HeadedUnit.step, ← v.text_append] using hunit
    | bare v => exact ih.bareUnit

/-- A list of units is read if and only if the first one has a title. Then every unit is a step, and
a unit without a title has its heading in its place. -/
theorem parse_headed (first : HeadedUnit) (units : List HeadedUnit) :
    parse (HeadedUnit.sheet first units) =
      match first with
      | .bare v => .error (.malformedUnit (String.ofList v.text))
      | .titled _ =>
        .ok ⟨(first :: units).map HeadedUnit.step, HeadedUnit.sheet first units⟩ := by
  cases first with
  | bare v => exact parse_bare v _
  | titled v =>
    have hunits := @Yields.plainUnit v _ [] _ ⟨isProse_nil, by simp⟩ (yields_units units)
    rw [List.nil_append, ← v.text_append] at hunits
    refine parse_of_yields ?_ (List.cons_ne_nil _ _)
    rw [HeadedUnit.sheet, String.toList_ofList]
    exact hunits

/-- Of a unit with a title and one without, both are read if the one with a title comes first, and
nothing is read if the other does. -/
theorem parse_headed_of_two :
    let titled := "Plan 1: count\n#E1 = Count[\x7b\x7d]"
    let bare := "Plan 2:\n#E2 = Op[\x7b\x7d]"
    parse (titled ++ "\n" ++ bare) = .ok ⟨[⟨"count", "#E1", "Count", "\x7b\x7d"⟩,
        ⟨"Plan 2:", "#E2", "Op", "\x7b\x7d"⟩], titled ++ "\n" ++ bare⟩ ∧
      parse (bare ++ "\n" ++ titled) = .error (.malformedUnit bare) := by
  intro titled bare
  let count : PlainUnit :=
    { number := ['1']
      title := "count".toList
      index := ['1']
      operation := "Count".toList
      blob := ['\x7b', '\x7d']
      isNumber := by decide
      isTitle := isPlainTitle_of_name (by decide +kernel) (by decide +kernel)
      isIndex := by decide
      isOperation := by decide +kernel
      isBlob := by decide }
  let headless : BareUnit :=
    { number := ['2']
      index := ['2']
      operation := "Op".toList
      blob := ['\x7b', '\x7d']
      isNumber := by decide
      isIndex := by decide
      isOperation := by decide +kernel
      isBlob := by decide }
  have hforth : HeadedUnit.sheet (.titled count) [.bare headless] = titled ++ "\n" ++ bare := by
    decide +kernel
  have hback : HeadedUnit.sheet (.bare headless) [.titled count] = bare ++ "\n" ++ titled := by
    decide +kernel
  have hsteps : [count.step, headless.step] = [⟨"count", "#E1", "Count", "\x7b\x7d"⟩,
      ⟨"Plan 2:", "#E2", "Op", "\x7b\x7d"⟩] := by
    decide +kernel
  constructor
  · rw [← hforth, ← hsteps]
    exact parse_headed (.titled count) [.bare headless]
  · rw [← hback]
    exact (parse_headed (.bare headless) [.titled count]).trans (by decide +kernel)

/-- The second of two units has no title, and both are read. -/
theorem parse_second_untitled :
    parse "Plan 1: a\n#E1 = Op[\x7b\x7d]\nPlan 2:\n#E2 = Op[\x7b\x7d]" =
      .ok ⟨[⟨"a", "#E1", "Op", "\x7b\x7d"⟩, ⟨"Plan 2:", "#E2", "Op", "\x7b\x7d"⟩],
        "Plan 1: a\n#E1 = Op[\x7b\x7d]\nPlan 2:\n#E2 = Op[\x7b\x7d]"⟩ :=
  parse_of_toOption (by decide +kernel)

end Errand.Plan
