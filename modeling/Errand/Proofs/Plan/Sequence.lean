import Errand.Proofs.Plan.Layout
import Errand.Proofs.Plan.Recognition

/-!
# Units one after another

To know what a text is read as, one has to know where the search finds its units. `Yields steps
text` says so, one unit after another. Some text is passed over in which no marker begins, a unit is
found whose title does not vanish, and the search goes on behind it. `parse_of_yields` is the
consequence for the whole text: it is read as a plan of just these steps, because every marker
begins inside a unit and no part of a step is missing.

A text that begins with a marker has to begin with a unit to be read at all
(`exists_first_of_parse`).
-/

set_option autoImplicit false

namespace Errand.Plan

open Text Text.Pattern

/-- The texts in which the search for units finds these steps, and has every marker in them. -/
inductive Yields : List Step → List Char → Prop
  /-- Nothing is found, and there is no marker. -/
  | nil {text : List Char} (hfind : unit.findAll text = [])
      (hmarkers : ∀ before marker after, text = before ++ (marker ++ after) → ¬ IsMarker marker) :
      Yields [] text
  /-- A unit is found, and no marker begins before it. -/
  | cons {u : Parts} {steps : List Step} {skipped after : List Char} (hu : u.IsUnit)
      (htitle : cleanTitle u.title ≠ [])
      (hfind : unit.findAll (skipped ++ u.text after) = u.found after :: unit.findAll after)
      (hskipped : ∀ before marker rest, skipped ++ u.text after = before ++ (marker ++ rest) →
        IsMarker marker → skipped.length ≤ before.length)
      (hrest : Yields steps after) : Yields (u.step :: steps) (skipped ++ u.text after)

/-- A unit that is written is found where a title of one line begins, and blanks before it. -/
theorem isSome_first?_of_written {w : Written} (hw : w.IsWritten) (hblob : IsGroup 2 w.blob)
    {gap title : List Char} (hgap : IsBlanks gap) (htitle : '\n' ∉ title) (rest : List Char) :
    (unit.first? (gap ++ (title ++ (w.beforeId ++ w.fromId rest)))).isSome := by
  obtain ⟨noted, htakes⟩ := exists_takes_body hw hblob rest hgap htitle
  have hunit : unit.Takes _ noted rest :=
    takes_seq_iff.mpr ⟨[], _, [], noted, rfl, rfl, takes_optional_iff.mpr (.inr ⟨rfl, rfl⟩), htakes⟩
  have hfirst := isSome_first?_of_takes hunit
  simpa only [List.nil_append, List.append_assoc, Written.fromId_append] using hfirst

theorem Written.IsWritten.isMarker {w : Written} (hw : w.IsWritten) : IsMarker w.marker :=
  .inr ⟨w.beforeNumber, w.number, w.beforeColon, hw.beforeNumber, hw.number, hw.beforeColon, rfl⟩

/-- The step of a unit whose title does not vanish lacks no part. -/
theorem Parts.IsUnit.missingPart_step {u : Parts} (hu : u.IsUnit)
    (htitle : cleanTitle u.title ≠ []) : u.step.missingPart = none := by
  have hpart : ∀ {text : List Char}, text ≠ [] → (∀ c ∈ text.head?, isBlank c = false) →
      isAllBlank (String.ofList text) = false := by
    intro text hne hhead
    obtain ⟨c, tail, rfl⟩ := List.exists_cons_of_ne_nil hne
    simp [isAllBlank, hhead c rfl]
  have hname : ∀ c ∈ u.operation.head?, isBlank c = false := fun c hc ↦
    isBlank_of_word (hu.operation.2 c (List.mem_of_mem_head? hc))
  have hblob : ∀ c ∈ u.blob.head?, isBlank c = false := by
    rw [hu.blob.head?]
    rintro _ ⟨⟩
    decide
  simp [Step.missingPart, Parts.step, hpart htitle (head?_cleanTitle u.title),
    hpart hu.operation.1 hname, hpart (ne_nil_of_group hu.blob) hblob]

/-- A text that begins with a marker is read only if it begins with a unit. -/
theorem exists_first_of_parse {text marker rest : List Char} {plan : Plan}
    (hmarker : IsMarker marker) (htext : text = marker ++ rest)
    (h : parse (String.ofList text) = .ok plan) :
    ∃ (u : Parts) (after : List Char) (steps : List Step), u.IsUnit ∧ text = u.text after ∧
      plan.steps = u.step :: steps ∧ (after = [] → steps = []) := by
  have hplan := isPlanOf_of_parse h
  obtain ⟨hsteps, -⟩ := parse_eq_ok h
  rw [String.toList_ofList] at hplan hsteps
  obtain ⟨place, hplace, -, hstart⟩ := hplan.covered [] marker rest htext hmarker
  have hfirst : (unit.first? text).isSome := by
    rw [Option.isSome_iff_ne_none]
    intro hnone
    obtain ⟨c, tail, rfl, -⟩ := hmarker.exists_cons
    rw [List.cons_append] at htext hstart
    rw [htext] at hnone
    rw [htext, findAll_skip first?_nil hnone] at hplace
    exact absurd ((finds_units _).start_le hplace) (Nat.not_le.mpr hstart)
  obtain ⟨u, after, hu, hutext, hfind⟩ := exists_unit_of_isSome hfirst
  rw [hfind] at hsteps
  cases hcons : plan.steps with
  | nil => exact absurd hcons hplan.steps
  | cons step steps =>
    rw [hcons, List.forall₂_cons, hutext] at hsteps
    obtain ⟨hstep, hrest⟩ := hsteps
    have hmade := stepOf_eq hu [] after
    rw [List.nil_append, hstep] at hmade
    split at hmade
    · cases hmade
    · refine ⟨u, after, steps, hu, hutext, by rw [Except.ok.inj hmade], ?_⟩
      rintro rfl
      rw [findAll_nil first?_nil, List.forall₂_nil_right_iff] at hrest
      exact hrest

/-! ### Whole texts -/

section Yields

variable {steps : List Step} {text : List Char}

/-- The units of a text are found in order, each as its step. -/
theorem Yields.mapM_stepOf (h : Yields steps text) (before : List Char) :
    (unit.findAll text).mapM (stepOf (before ++ text)) = .ok steps := by
  induction h generalizing before with
  | nil hfind _ =>
    rw [hfind]
    rfl
  | @cons u steps skipped after hu htitle hfind _ _ ih =>
    have hstep := stepOf_eq hu (before ++ skipped) after
    have hrest := ih (before ++ skipped ++ u.text [])
    rw [if_neg htitle, List.append_assoc] at hstep
    rw [List.append_assoc, u.text_append, List.append_assoc] at hrest
    rw [hfind, List.mapM_cons, hstep, hrest]
    rfl

/-- Every marker in a text starts inside one of the units. -/
theorem Yields.covered (h : Yields steps text) {before marker after : List Char}
    (htext : text = before ++ (marker ++ after)) (hmarker : IsMarker marker) :
    ∃ place ∈ unit.findAll text,
      place.stop < (marker ++ after).length ∧ (marker ++ after).length ≤ place.start := by
  induction h generalizing before with
  | nil _ hmarkers => exact absurd hmarker (hmarkers before marker after htext)
  | @cons u steps skipped rest _ _ hfind hskipped _ ih =>
    have hbegin := hskipped before marker after htext hmarker
    rw [hfind]
    by_cases hinside : rest.length < (marker ++ after).length
    · refine ⟨u.found rest, List.mem_cons_self, hinside, ?_⟩
      have htotal := congrArg List.length htext
      rw [List.length_append, List.length_append] at htotal
      rw [u.start_found]
      omega
    · rw [← u.text_append, ← List.append_assoc] at htext
      obtain ⟨between, hrest⟩ : ∃ between, rest = between ++ (marker ++ after) := by
        rcases List.append_eq_append_iff.mp htext with ⟨between, -, hrest⟩ | ⟨more, -, hmore⟩
        · exact ⟨between, hrest⟩
        · have hlength := congrArg List.length hmore
          obtain rfl : more = [] := by
            simp only [List.length_append] at hlength hinside
            exact List.eq_nil_of_length_eq_zero (by omega)
          exact ⟨[], hmore.symm⟩
      obtain ⟨place, hplace, hcovers⟩ := ih hrest
      exact ⟨place, List.mem_cons_of_mem _ hplace, hcovers⟩

theorem Yields.missingPart (h : Yields steps text) : ∀ step ∈ steps, step.missingPart = none := by
  induction h with
  | nil => exact List.forall_mem_nil _
  | cons hu htitle _ _ _ ih => exact List.forall_mem_cons.mpr ⟨hu.missingPart_step htitle, ih⟩

/-- A text is read as the plan of the steps that are found in it. -/
theorem parse_of_yields {text : String} (h : Yields steps text.toList) (hne : steps ≠ []) :
    parse text = .ok ⟨steps, text⟩ := by
  have hsteps := h.mapM_stepOf []
  have hmarkers : ((unitMarker.findAll text.toList).find? fun marker ↦
      !(unit.findAll text.toList).any (startsInside marker)) = none := by
    refine List.find?_eq_none.mpr fun found hfound ↦ ?_
    obtain ⟨before, marker, marks, after, htext, -, htakes, rfl⟩ :=
      (finds_unitMarker _).exists_takes hfound
    obtain ⟨place, hplace, hstop, hstart⟩ :=
      h.covered htext (takes_unitMarker_iff.mp htakes).1
    simp only [Bool.not_eq_true, Bool.not_eq_false', List.any_eq_true, startsInside,
      Bool.and_eq_true, decide_eq_true_eq]
    exact ⟨place, hplace, hstart, hstop⟩
  rw [List.nil_append] at hsteps
  unfold parse
  simp only [hsteps, hmarkers, bind, Except.bind]
  exact check_eq_ok_iff.mpr ⟨hne, h.missingPart, rfl⟩

end Yields

end Errand.Plan
