import Errand.Proofs.Plan.Layout
import Errand.Proofs.Plan.Recognition

/-!
# Broken units

The parameters of a broken unit lack their closing brace, or they nest braces too deep. A broken
unit is kept apart if a line ends before its bracket, or before the next unit, and if its parameters
hold no whole unit themselves (`StandsApart`). No unit that is recognised goes over the marker that
such a unit begins with, whatever stands before it, as long as what follows closes no braces of its
own accord (`not_within_broken`). Hence a text with such a unit is refused as a whole:
`parse_broken`.

Where the next unit begins on the line on which the title of a broken one begins, the broken unit is
lost. The title of the next unit then begins before it and goes over all of it (`parse_absorbed`).
-/

set_option autoImplicit false

namespace Errand.Plan

open Text Text.Pattern

/-- Parameters that are begun, but that lack the closing brace or go too deep. -/
def IsBroken (blob : List Char) : Prop :=
  (∃ inner depth, blob = '{' :: inner ∧ level 1 inner = some depth) ∨
    ∃ limit, IsGroup limit blob ∧ ¬ IsGroup 2 blob

theorem IsBroken.sustains {blob : List Char} (h : IsBroken blob) : Sustains blob := by
  rcases h with ⟨inner, depth, rfl, hlevel⟩ | ⟨limit, hgroup, -⟩
  · exact sustains_of_level hlevel
  · exact hgroup.sustains

/-- Broken parameters are not those of a unit, whatever follows them. -/
theorem IsBroken.ne_of_append {blob blob' rest rest' : List Char} (h : IsBroken blob)
    (hblob' : IsGroup 2 blob') (hrest : Sustains rest) : blob' ++ rest' ≠ blob ++ rest := by
  intro heq
  rcases h with ⟨inner, depth, rfl, hlevel⟩ | ⟨limit, hgroup, hdeep⟩
  · obtain ⟨inner', rfl, hinner'⟩ := hblob'
    obtain ⟨after, hafter⟩ : ∃ after, level 1 (inner ++ rest) = some after := by
      obtain ⟨depth, rfl⟩ := Nat.exists_eq_succ_of_ne_zero (Nat.ne_of_gt (pos_of_level hlevel))
      obtain ⟨more, hmore⟩ := hrest depth
      exact ⟨_, by rw [level_append, hlevel, Option.bind_some, hmore]⟩
    have hnone : level 1 inner' = none := hinner'.level_eq 0
    have htail : inner' ++ rest' = inner ++ rest := (List.cons.inj heq).2
    rw [← htail, level_append, hnone] at hafter
    cases hafter
  · exact hdeep (hblob'.unique hgroup heq ▸ hblob')

/-- Whether the name of an operation with parameters of its own stands in a text. -/
def HasCall (text : List Char) : Prop :=
  ∃ front c gap gap' back, isWord c ∧ IsBlanks gap ∧ IsBlanks gap' ∧
    text = front ++ c :: (gap ++ '[' :: (gap' ++ '{' :: back))

/-- Whether a unit is kept apart from the text after it: by a line break before its bracket, or by
one before the next marker, if there is one and no other bracket before it. -/
def StandsApart (w : Written) (rest : List Char) : Prop :=
  '\n' ∈ w.title ++ (w.beforeId ++ w.assignment) ∨
    ¬ HasCall w.blob ∧
      ('[' ∉ rest ∨ ∃ gap marker more, rest = gap ++ (marker ++ more) ∧ '[' ∉ gap ++ marker ∧
        ':' ∈ marker ∧ '\n' ∈ w.fromTitle gap)

/-! ### Where a recognised unit has found its bracket -/

section Broken

variable {u : Parts} {w : Written} {before after rest : List Char}

/-- The brackets around parameters are no braces. -/
theorem Written.IsWritten.notMem_afterBlob (hw : w.IsWritten) {c : Char} (hc : isBlank c = false)
    (hbracket : c ≠ ']') : c ∉ w.afterBlob ++ [']'] := by
  simp [hw.afterBlob.notMem hc, hbracket]

/-- What stands before the parameters of a unit, apart from its title, holds no braces. -/
theorem Written.IsWritten.notMem_beforeBlob (hw : w.IsWritten) {c : Char} (htitle : c ∉ w.title)
    (hblank : isBlank c = false) (hdigit : isDigit c = false) (hword : isWord c = false)
    (hmarks : c ∉ "Plan:#E=[".toList) :
    c ∉ w.opening ++ (w.title ++ (w.beforeId ++ (w.assignment ++ '[' :: w.beforeBlob))) := by
  simp only [Written.opening, Written.marker, Written.assignment, List.mem_append, List.mem_cons,
    List.not_mem_nil, hw.beforeNumber.notMem hblank, hw.number.2.notMem hdigit,
    hw.beforeColon.notMem hblank, hw.beforeTitle.notMem hblank, htitle, hw.beforeId.notMem hblank,
    hw.index.2.notMem hdigit, hw.beforeSign.notMem hblank, hw.afterSign.notMem hblank,
    hw.operation.notMem hword, hw.beforeBracket.notMem hblank, hw.beforeBlob.notMem hblank]
  simpa [and_assoc] using hmarks

/-- A written unit closes nothing that was opened before it, if its parameters do not. -/
theorem Written.IsWritten.sustains (hw : w.IsWritten) (hopen : '{' ∉ w.title)
    (hclose : '}' ∉ w.title) (hblob : Sustains w.blob) : Sustains (w.text []) := by
  have hsplit : w.text [] =
      w.opening ++ (w.title ++ (w.beforeId ++ (w.assignment ++ '[' :: w.beforeBlob))) ++
        (w.blob ++ (w.afterBlob ++ [']'])) := by
    simp [Written.text, Written.fromTitle, Written.fromId, Written.fromBlob]
  rw [hsplit]
  refine (sustains_of_notMem ?_ ?_).append (hblob.append (sustains_of_notMem ?_ ?_))
  · exact hw.notMem_beforeBlob hopen (by decide) (by decide) (by decide +kernel) (by decide)
  · exact hw.notMem_beforeBlob hclose (by decide) (by decide) (by decide +kernel) (by decide)
  · exact hw.notMem_afterBlob (by decide) (by decide)
  · exact hw.notMem_afterBlob (by decide) (by decide)

/-- Parameters that begin before a broken unit end before it. -/
theorem length_le_of_blob_before (hu : u.IsUnit) {front : List Char}
    (hsustains : Sustains (w.text rest))
    (h : u.beforeBlob ++ u.fromBlob after = front ++ w.text rest) :
    (w.text rest).length ≤ after.length := by
  by_contra hlt
  -- The first character of the broken unit would lie in the parameters, inside their braces.
  obtain ⟨inner, hinner, hcloses⟩ := hu.blob
  have hsplit : (u.beforeBlob ++ '{' :: (inner ++ (u.afterBlob ++ [']']))) ++ after =
      front ++ w.text rest := by
    rw [← h, Parts.fromBlob, hinner]
    simp
  have hblanks : ∀ {blanks : List Char}, IsBlanks blanks → 'P' ∉ blanks := fun hblanks ↦
    hblanks.notMem (by decide)
  rcases List.append_eq_append_iff.mp hsplit with ⟨back, -, hback⟩ | ⟨start, hstart, htext⟩
  · exact hlt (by simp [hback])
  rcases start with _ | ⟨c, start⟩
  · exact hlt (by simp [htext])
  obtain rfl : c = 'P' := by
    have hhead : (w.text rest).head? = some 'P' := rfl
    simpa [htext] using hhead
  obtain ⟨more, hfront, hmore⟩ : ∃ more, front = u.beforeBlob ++ '{' :: more ∧
      more ++ 'P' :: start = inner ++ (u.afterBlob ++ [']']) := by
    rcases List.append_eq_append_iff.mp hstart with ⟨more, hfront, hmore⟩ | ⟨more, hblob, hmore⟩
    · rcases more with _ | ⟨d, more⟩
      · exact absurd (List.cons.inj hmore).1 (by decide)
      · obtain ⟨rfl, htail⟩ := List.cons.inj hmore
        exact ⟨more, hfront, htail.symm⟩
    · rcases more with _ | ⟨d, more⟩
      · exact absurd (List.cons.inj hmore).1 (by decide)
      · obtain ⟨rfl, -⟩ := List.cons.inj hmore
        exact absurd (by simp [hblob]) (hblanks hu.beforeBlob)
  obtain ⟨beyond, rfl, rfl⟩ := exists_of_notMem_right (by simp [hblanks hu.afterBlob]) hmore
  have hbeyond : Sustains ('P' :: beyond ++ (u.afterBlob ++ [']'] ++ after)) := by
    rw [htext] at hsustains
    simpa using hsustains
  exact List.cons_ne_nil _ _ (hcloses.eq_nil_of_sustains hbeyond)

/-- Parameters that begin where those of a broken unit are written are not recognised. -/
theorem blob_ne_of_broken (hu : u.IsUnit) (hw : w.IsWritten) (hbroken : IsBroken w.blob)
    (hrest : Sustains rest) :
    u.beforeBlob ++ u.fromBlob after ≠ w.beforeBlob ++ w.fromBlob rest := by
  have hbrace : ∀ {blob : List Char} (text : List Char), blob.head? = some '{' →
      ∀ c ∈ (blob ++ text).head?, isBlank c = false := by
    intro blob text hhead
    obtain ⟨tail, rfl⟩ := List.head?_eq_some_iff.mp hhead
    rintro _ ⟨⟩
    decide
  intro h
  obtain ⟨-, hblob⟩ := append_inj_of_class hu.beforeBlob (hbrace _ hu.blob.head?) hw.beforeBlob
    (hbrace _ hw.blob) h
  refine hbroken.ne_of_append hu.blob ?_ hblob
  have hafter : Sustains (w.afterBlob ++ [']']) := sustains_of_notMem
    (hw.notMem_afterBlob (by decide) (by decide)) (hw.notMem_afterBlob (by decide) (by decide))
  simpa using hafter.append hrest

/-- Parameters that begin within those of a broken unit follow the name of an operation there. -/
theorem hasCall_of_blob_within (hu : u.IsUnit) (hw : w.IsWritten) {front inner back : List Char}
    (hblob : w.blob = inner ++ '[' :: back)
    (hfront : front ++ (u.operation ++ u.beforeBracket) = before ++ (w.beforeBlob ++ inner))
    (h : u.beforeBlob ++ u.fromBlob after = back ++ (w.afterBlob ++ ']' :: rest)) :
    HasCall w.blob := by
  obtain ⟨name, c, hname⟩ : ∃ name c, u.operation = name ++ [c] := by
    rcases List.eq_nil_or_concat u.operation with hnil | ⟨name, c, hname⟩
    · exact absurd hnil hu.operation.1
    · exact ⟨name, c, by simpa using hname⟩
  have hword : isWord c := hu.operation.2 c (by simp [hname])
  obtain ⟨inner, rfl⟩ : ∃ tail, inner = '{' :: tail := by
    have hhead := hw.blob
    rw [hblob] at hhead
    rcases inner with _ | ⟨d, inner⟩
    · simp at hhead
    · obtain rfl : d = '{' := by simpa using hhead
      exact ⟨inner, rfl⟩
  have hbrace : '{' ∉ c :: u.beforeBracket := by
    rw [List.mem_cons, not_or]
    refine ⟨?_, hu.beforeBracket.notMem (by decide)⟩
    rintro rfl
    exact absurd hword (by decide +kernel)
  obtain ⟨begun, -, rfl⟩ := exists_of_notMem_right hbrace
    (show (before ++ w.beforeBlob) ++ '{' :: inner = (front ++ name) ++ c :: u.beforeBracket by
      simpa [hname] using hfront.symm)
  obtain ⟨group, hgroup, -⟩ := hu.blob
  have hbegin : u.beforeBlob ++ '{' :: (group ++ (u.afterBlob ++ ']' :: after)) =
      back ++ (w.afterBlob ++ ']' :: rest) := by
    simpa [Parts.fromBlob, hgroup] using h
  have hclosing : '{' ∉ w.afterBlob ++ [']'] := hw.notMem_afterBlob (by decide) (by decide)
  obtain ⟨more, rfl⟩ : ∃ more, back = u.beforeBlob ++ '{' :: more := by
    rcases List.append_eq_append_iff.mp hbegin with ⟨more, hmore, htail⟩ | ⟨more, hmore, htail⟩
    · rcases more with _ | ⟨d, more⟩
      · exact absurd (by simpa using htail) (cons_ne_append hclosing (by simp))
      · obtain ⟨rfl, -⟩ := List.cons.inj htail
        exact ⟨more, hmore⟩
    · have hsplit : more ++ '{' :: (group ++ (u.afterBlob ++ ']' :: after)) =
          (w.afterBlob ++ [']']) ++ rest := by
        rw [← htail]
        simp
      obtain ⟨last, rfl, -⟩ := exists_of_notMem_left hclosing hsplit
      exact absurd (by simp [hmore]) (hu.beforeBlob.notMem (show isBlank ']' = false by decide))
  exact ⟨'{' :: begun, c, u.beforeBracket, u.beforeBlob, more, hword, hu.beforeBracket,
    hu.beforeBlob, by simp [hblob]⟩

/-- The text of a written unit up to its bracket holds no other one. -/
theorem Written.IsWritten.notMem_beforeBracket (hw : w.IsWritten) :
    '[' ∉ w.opening ++ (w.title ++ (w.beforeId ++ w.assignment)) := by
  simp [hw.notMem_opening, hw.title, notMem_assignment hw,
    hw.beforeId.notMem (show isBlank '[' = false by decide)]

/-- The bracket of a unit that is recognised around a written one stands before it, or it is the
bracket of the written one, or it stands behind that. -/
theorem bracket_cases (hw : w.IsWritten) (h : u.text after = before ++ w.text rest) :
    (∃ back, u.beforeBlob ++ u.fromBlob after = back ++ w.text rest) ∨
      u.beforeBlob ++ u.fromBlob after = w.beforeBlob ++ w.fromBlob rest ∨
      ∃ beyond, w.beforeBlob ++ w.fromBlob rest =
          beyond ++ '[' :: (u.beforeBlob ++ u.fromBlob after) ∧
        u.heading ++ (u.markup ++ (u.title ++ u.middle)) =
          before ++ (w.opening ++ (w.title ++ (w.beforeId ++ w.assignment) ++ '[' :: beyond)) := by
  have hsplit : (u.heading ++ (u.markup ++ (u.title ++ u.middle))) ++
      '[' :: (u.beforeBlob ++ u.fromBlob after) = before ++ w.text rest := by
    rw [← h, Parts.text, u.fromTitle_eq]
    simp
  rcases List.append_eq_append_iff.mp hsplit with ⟨more, hmore, hblob⟩ | ⟨more, hmore, hblob⟩
  · rcases more with _ | ⟨c, more⟩
    · exact absurd (List.cons.inj hblob).1 (by decide)
    · exact .inl ⟨more, (List.cons.inj hblob).2⟩
  · rw [Written.text, w.fromTitle_eq, ← List.append_assoc] at hblob
    obtain ⟨beyond, rfl, hbeyond⟩ := exists_of_notMem_left hw.notMem_beforeBracket hblob.symm
    rcases beyond with _ | ⟨c, beyond⟩
    · exact .inr (.inl (List.cons.inj hbeyond).2.symm)
    · obtain ⟨rfl, htail⟩ := List.cons.inj hbeyond
      exact .inr (.inr ⟨beyond, htail, by simp [hmore]⟩)

/-- The title of a unit that is recognised around a written one ends before a line of it ends. -/
theorem exists_middle_of_line (hu : u.IsUnit) {extra front back : List Char}
    (hline : '\n' ∈ front) (h : u.title ++ u.middle = extra ++ (front ++ back)) :
    ∃ more, u.middle = more ++ back := by
  rw [← List.append_assoc] at h
  obtain ⟨more, -, hmore⟩ :=
    exists_of_mem_right hu.title (List.mem_append_right extra hline) h
  exact ⟨more, hmore⟩

/-- The bracket does not stand behind that of a written unit which is kept apart. -/
theorem not_beyond (hu : u.IsUnit) (hw : w.IsWritten) (hapart : StandsApart w rest)
    {extra beyond : List Char}
    (hfront : u.title ++ u.middle =
      extra ++ (w.title ++ (w.beforeId ++ w.assignment) ++ '[' :: beyond)) :
    w.beforeBlob ++ w.fromBlob rest ≠ beyond ++ '[' :: (u.beforeBlob ++ u.fromBlob after) := by
  intro hbeyond
  rcases hapart with hline | ⟨hcall, hnext⟩
  · obtain ⟨more, hmore⟩ := exists_middle_of_line hu hline hfront
    exact hu.notMem_middle (by decide) (by decide) (by decide +kernel) (by decide)
      (show '[' ∈ u.middle by simp [hmore])
  obtain ⟨inner, rfl, hblob⟩ :=
    exists_of_notMem_left (hw.beforeBlob.notMem (by decide)) hbeyond.symm
  rcases List.append_eq_append_iff.mp hblob with ⟨more, hmore, htail⟩ | ⟨more, hmore, htail⟩
  · have hbehind : more ++ '[' :: (u.beforeBlob ++ u.fromBlob after) =
        (w.afterBlob ++ [']']) ++ rest := by
      rw [← htail]
      simp
    obtain ⟨between, rfl, hrest⟩ :=
      exists_of_notMem_left (hw.notMem_afterBlob (by decide) (by decide)) hbehind
    rcases hnext with hnone | ⟨gap, marker, next, rfl, hnone, hcolon, hline⟩
    · exact hnone (by simp [hrest])
    · rw [← List.append_assoc] at hrest
      obtain ⟨last, rfl, -⟩ := exists_of_notMem_left hnone hrest.symm
      have hpast : u.title ++ u.middle = extra ++ (w.fromTitle gap ++ (marker ++ last)) := by
        rw [hfront, hmore, w.fromTitle_eq, Written.fromBlob]
        simp
      obtain ⟨start, hstart⟩ := exists_middle_of_line hu hline hpast
      exact hu.notMem_middle (by decide) (by decide) (by decide +kernel) (by decide)
        (show ':' ∈ u.middle by simp [hstart, hcolon])
  · rcases more with _ | ⟨c, back⟩
    · exact absurd (by simpa using htail)
        (cons_ne_append (hw.notMem_afterBlob (show isBlank '[' = false by decide) (by decide))
          (by simp))
    · obtain ⟨rfl, hback⟩ := List.cons.inj htail
      have hoperation : (u.title ++ (u.breaks ++ (u.id ++ u.equals))) ++
          (u.operation ++ u.beforeBracket) =
          (extra ++ (w.title ++ (w.beforeId ++ w.assignment) ++ ['['])) ++
            (w.beforeBlob ++ inner) := by
        simpa [Parts.middle] using hfront
      exact hcall (hasCall_of_blob_within hu hw hmore hoperation hback)

/-- No recognised unit goes over the start of a broken one that is kept apart. -/
theorem not_within_broken (hu : u.IsUnit) (hw : w.IsWritten) (hbroken : IsBroken w.blob)
    (hplain : BeginsPlainly w.title) (hopen : '{' ∉ w.title) (hclose : '}' ∉ w.title)
    (hrest : Sustains rest) (hapart : StandsApart w rest)
    (h : u.text after = before ++ w.text rest) : (w.text rest).length ≤ after.length := by
  rcases bracket_cases hw h with ⟨back, hback⟩ | hblob | ⟨beyond, hbeyond, hfront⟩
  · have hsustains : Sustains (w.text rest) := by
      rw [← w.text_append]
      exact (hw.sustains hopen hclose hbroken.sustains).append hrest
    exact length_le_of_blob_before hu hsustains hback
  · exact absurd hblob (blob_ne_of_broken hu hw hbroken hrest)
  · obtain ⟨extra, -, hopening⟩ :=
      exists_over_opening hu hw (hplain.append (hw.head_beforeId rest)) h
    rw [← List.append_assoc before, ← hopening, List.append_assoc, List.append_assoc] at hfront
    exact absurd hbeyond
      (not_beyond hu hw hapart (List.append_cancel_left (List.append_cancel_left hfront)))

end Broken

/-! ### Texts of units, some of them broken -/

/-- A text made of units, each with the text after it. -/
def sheet (lead : List Char) (units : List (Written × List Char)) : List Char :=
  lead ++ units.flatMap fun unit ↦ unit.1.text [] ++ unit.2

/-- Whether a unit of a text is whole or broken, with a title without braces and blanks after it. -/
structure IsSheetUnit (unit : Written × List Char) : Prop where
  isWritten : unit.1.IsWritten
  notOpen : '{' ∉ unit.1.title
  notClose : '}' ∉ unit.1.title
  blob : IsGroup 2 unit.1.blob ∨ IsBroken unit.1.blob
  gap : IsBlanks unit.2

theorem IsSheetUnit.sustains {unit : Written × List Char} (h : IsSheetUnit unit) :
    Sustains (unit.1.text [] ++ unit.2) := by
  have hblob : Sustains unit.1.blob := h.blob.elim IsGroup.sustains IsBroken.sustains
  exact (h.isWritten.sustains h.notOpen h.notClose hblob).append
    (sustains_of_notMem (h.gap.notMem (by decide)) (h.gap.notMem (by decide)))

theorem sustains_flatMap {units : List (Written × List Char)}
    (h : ∀ unit ∈ units, IsSheetUnit unit) :
    Sustains (units.flatMap fun unit ↦ unit.1.text [] ++ unit.2) := by
  induction units with
  | nil => exact sustains_of_notMem List.not_mem_nil List.not_mem_nil
  | cons unit units ih =>
    rw [List.flatMap_cons]
    exact (h unit List.mem_cons_self).sustains.append
      (ih fun other hother ↦ h other (List.mem_cons_of_mem unit hother))

/-- The text after a unit is blank, or it begins with the marker of the next unit. -/
theorem standsApart_of_line {w : Written} {gap : List Char} {back : List (Written × List Char)}
    (hback : ∀ unit ∈ back, IsSheetUnit unit) (hgap : IsBlanks gap)
    (h : '\n' ∈ w.title ++ (w.beforeId ++ w.assignment) ∨
      ¬ HasCall w.blob ∧ (back = [] ∨ '\n' ∈ w.fromTitle gap)) :
    StandsApart w (gap ++ back.flatMap fun unit ↦ unit.1.text [] ++ unit.2) := by
  have hnone : '[' ∉ gap := hgap.notMem (by decide)
  rcases h with htitle | ⟨hcall, hline⟩
  · exact .inl htitle
  refine .inr ⟨hcall, ?_⟩
  rcases back with _ | ⟨⟨next, gap'⟩, back⟩
  · exact .inl (by simpa using hnone)
  · have hnext := (hback _ List.mem_cons_self).isWritten.notMem_opening
    rw [Written.opening, List.mem_append, not_or] at hnext
    refine .inr ⟨gap, next.marker, next.beforeTitle ++ (next.fromTitle [] ++ (gap' ++
      back.flatMap fun unit ↦ unit.1.text [] ++ unit.2)), ?_, ?_, ?_, 
      hline.resolve_left (List.cons_ne_nil _ _)⟩
    · simp [Written.text, Written.opening]
    · simp [hnone, hnext.1]
    · simp [Written.marker]

/-- A text is not read if a unit in it is broken, unless the line on which its title begins goes on
to the next unit, or its parameters hold a whole unit themselves. -/
theorem parse_broken (lead : List Char) {front back : List (Written × List Char)} {w : Written}
    {gap : List Char} (hunits : ∀ unit ∈ front ++ (w, gap) :: back, IsSheetUnit unit)
    (hbroken : IsBroken w.blob) (hplain : BeginsPlainly w.title)
    (hapart : '\n' ∈ w.title ++ (w.beforeId ++ w.assignment) ∨
      ¬ HasCall w.blob ∧ (back = [] ∨ '\n' ∈ w.fromTitle gap)) :
    ∃ fault, parse (String.ofList (sheet lead (front ++ (w, gap) :: back))) = .error fault := by
  have hunit := hunits (w, gap) (by simp)
  have hback : ∀ unit ∈ back, IsSheetUnit unit := fun unit hmem ↦ hunits unit (by simp [hmem])
  let rest := gap ++ back.flatMap fun unit ↦ unit.1.text [] ++ unit.2
  have hrest : Sustains rest :=
    (sustains_of_notMem (hunit.gap.notMem (by decide)) (hunit.gap.notMem (by decide))).append
      (sustains_flatMap hback)
  let start := sheet lead front
  have htext : sheet lead (front ++ (w, gap) :: back) = start ++ w.text rest := by
    rw [← w.text_append]
    simp [start, rest, sheet]
  cases hparse : parse (String.ofList (sheet lead (front ++ (w, gap) :: back))) with
  | error fault => exact ⟨fault, rfl⟩
  | ok plan =>
    have hplan := isPlanOf_of_parse hparse
    rw [String.toList_ofList, htext] at hplan
    have hmarker : IsMarker w.marker :=
      .inr ⟨w.beforeNumber, w.number, w.beforeColon, hunit.isWritten.beforeNumber,
        hunit.isWritten.number, hunit.isWritten.beforeColon, rfl⟩
    have hbegin : w.text rest = w.marker ++ (w.beforeTitle ++ w.fromTitle rest) := by
      simp [Written.text, Written.opening]
    obtain ⟨place, hplace, hstop, hstart⟩ :=
      hplan.covered start _ _ (congrArg (start ++ ·) hbegin) hmarker
    rw [← hbegin] at hstop hstart
    obtain ⟨before, taken, marks, after, hwhole, -, htakes, rfl⟩ :=
      (finds_units _).exists_takes hplace
    obtain ⟨u, hu, rfl, rfl⟩ := exists_parts_of_takes htakes
    rw [u.text_append] at hwhole
    obtain ⟨pre, hpre⟩ : ∃ pre, u.text after = pre ++ w.text rest := by
      rcases List.append_eq_append_iff.mp hwhole with ⟨more, -, hmore⟩ | ⟨more, -, hmore⟩
      · have hlength : (w.text rest).length ≤ (u.text after).length := by
          simpa [takenMatch, ← u.text_append after] using hstart
        obtain rfl : more = [] := by
          rw [hmore, List.length_append] at hlength
          exact List.eq_nil_of_length_eq_zero (by omega)
        exact ⟨[], hmore.symm⟩
      · exact ⟨more, hmore⟩
    have hle := not_within_broken hu hunit.isWritten hbroken hplain hunit.notOpen hunit.notClose
      hrest (standsApart_of_line hback hunit.gap hapart) hpre
    exact absurd hstop (Nat.not_lt.mpr hle)

/-- Two units on lines of their own, the first one without its closing brace. -/
def unclosed : List (Written × List Char) :=
  [(.onTwoLines ['1'] ['a'] ['1'] ['O', 'p'] ['\x7b'], ['\n']),
    (.onTwoLines ['2'] ['b'] ['2'] ['O', 'p'] ['\x7b', '\x7d'], [])]

theorem parse_broken_unclosed :
    (∀ unit ∈ [] ++ unclosed, IsSheetUnit unit) ∧
      ∃ fault, parse (String.ofList (sheet [] ([] ++ unclosed))) = .error fault := by
  have hname : IsName ['O', 'p'] := ⟨by decide, List.all_eq_true.mp (by decide)⟩
  have hgap : IsBlanks ['\n'] := by simp [IsBlanks, isBlank]
  have hbroken : IsBroken ['\x7b'] := .inl ⟨[], 1, rfl, rfl⟩
  have hdigit : ∀ c, isDigit c → [c] ≠ [] ∧ IsDigits [c] := fun c hc ↦
    ⟨List.cons_ne_nil c [], by simpa [IsDigits] using hc⟩
  have hunits : ∀ unit ∈ [] ++ unclosed, IsSheetUnit unit := by
    intro unit hunit
    simp only [unclosed, List.nil_append, List.mem_cons, List.not_mem_nil, or_false] at hunit
    rcases hunit with rfl | rfl
    · exact ⟨Written.isWritten_onTwoLines (hdigit '1' (by decide)) (by decide)
        (hdigit '1' (by decide)) hname rfl, by decide, by decide, .inr hbroken, hgap⟩
    · refine ⟨Written.isWritten_onTwoLines (hdigit '2' (by decide)) (by decide)
        (hdigit '2' (by decide)) hname rfl, by decide, by decide, .inl ⟨['\x7d'], rfl, ?_⟩,
        isBlanks_nil⟩
      exact closes_close.mpr (closes_zero.mpr rfl)
  have hplain : BeginsPlainly ['a'] := ⟨'a', [], rfl, by decide, by decide, by decide⟩
  exact ⟨hunits, parse_broken [] hunits hbroken hplain (.inl (by decide))⟩

/-- On one line, the title of the next unit goes over the whole of a broken one. -/
theorem parse_absorbed :
    parse "Plan 1: a #E1 = Op[\x7b\"x\": 1] Plan 2: b #E2 = Op[\x7b\"y\": 2\x7d]" =
      .ok ⟨[⟨"a #E1 = Op[\x7b\"x\": 1] Plan 2: b", "#E2", "Op", "\x7b\"y\": 2\x7d"⟩],
        "Plan 1: a #E1 = Op[\x7b\"x\": 1] Plan 2: b #E2 = Op[\x7b\"y\": 2\x7d]"⟩ :=
  parse_of_toOption (by decide +kernel)

end Errand.Plan
