import Errand.Proofs.Plan.Check
import Errand.Proofs.Plan.Title
import Errand.Proofs.Plan.Units
import Errand.Proofs.Run.Inquiry

/-!
# Everything that is read as a plan

`IsPlanOf text plan` is what holds of every plan that was read from a text. Each step is well formed
and stands in the text as a unit, the units stand one after another without overlap, and every text
that only the start of a unit has, wherever it occurs, starts inside one of them. `parse_sound` says
that nothing else is read, and that a text that is not read fails a run as a plan that cannot be
parsed.
-/

set_option autoImplicit false

namespace Errand.Plan

open Text Text.Pattern

/-! ### Markers -/

/-- A text that only the start of a unit has: a step id and an equals sign, or a numbered heading.
-/
def IsMarker (text : List Char) : Prop :=
  (∃ id gap, IsStepId id ∧ IsBlanks gap ∧ text = id ++ (gap ++ ['='])) ∨
    ∃ gap digits gap', IsBlanks gap ∧ (digits ≠ [] ∧ IsDigits digits) ∧ IsBlanks gap' ∧
      text = "Plan".toList ++ (gap ++ (digits ++ (gap' ++ [':'])))

theorem takes_unitMarker_iff {taken text : List Char} {marks : Marks} :
    unitMarker.Takes taken marks text ↔ IsMarker taken ∧ marks = [] := by
  rw [unitMarker, takes_either_iff]
  simp only [all, takes_seq_iff, takes_stepId_iff, takes_blanks_iff, takes_char_iff,
    takes_literal_iff, takes_oneOrMore_one_iff]
  constructor
  · rintro (⟨id, _, _, _, rfl, rfl, ⟨hid, rfl⟩, gap, _, _, _, rfl, rfl, ⟨hgap, rfl⟩, rfl, rfl⟩ |
      ⟨_, _, _, _, rfl, rfl, ⟨rfl, rfl⟩, gap, _, _, _, rfl, rfl, ⟨hgap, rfl⟩, ds, _, _, _, rfl, rfl,
        ⟨hne, hds, rfl⟩, gap', _, _, _, rfl, rfl, ⟨hgap', rfl⟩, rfl, rfl⟩)
    · exact ⟨.inl ⟨id, gap, hid, hgap, rfl⟩, rfl⟩
    · exact ⟨.inr ⟨gap, ds, gap', hgap, ⟨hne, hds⟩, hgap', rfl⟩, rfl⟩
  · rintro ⟨⟨id, gap, hid, hgap, rfl⟩ | ⟨gap, ds, gap', hgap, ⟨hne, hds⟩, hgap', rfl⟩, rfl⟩
    · exact .inl ⟨id, _, [], [], rfl, rfl, ⟨hid, rfl⟩, gap, _, [], [], rfl, rfl, ⟨hgap, rfl⟩, rfl,
        rfl⟩
    · exact .inr ⟨_, _, [], [], rfl, rfl, ⟨rfl, rfl⟩, gap, _, [], [], rfl, rfl, ⟨hgap, rfl⟩, ds, _,
        [], [], rfl, rfl, ⟨hne, hds, rfl⟩, gap', _, [], [], rfl, rfl, ⟨hgap', rfl⟩, rfl, rfl⟩

/-- Whether a marker can begin with a character. -/
def BeginsMarker (c : Char) : Prop :=
  c = '#' ∨ c = 'P'

theorem not_beginsMarker_of_blank {c : Char} (hc : isBlank c) : ¬ BeginsMarker c := by
  rintro (rfl | rfl) <;> exact absurd hc (by decide)

theorem not_beginsMarker_of_digit {c : Char} (hc : isDigit c) : ¬ BeginsMarker c := by
  rintro (rfl | rfl) <;> exact absurd hc (by decide)

/-- A marker begins where no other marker goes on. -/
theorem IsMarker.exists_cons {marker : List Char} (h : IsMarker marker) :
    ∃ c tail, marker = c :: tail ∧ BeginsMarker c ∧ ∀ d ∈ tail, ¬ BeginsMarker d := by
  rcases h with ⟨_, gap, ⟨ds, -, hds, rfl⟩, hgap, rfl⟩ | ⟨gap, ds, gap', hgap, ⟨-, hds⟩, hgap', rfl⟩
  · refine ⟨'#', 'E' :: ds ++ (gap ++ ['=']), rfl, .inl rfl, fun d hd ↦ ?_⟩
    simp only [List.cons_append, List.mem_cons, List.mem_append, List.not_mem_nil, or_false] at hd
    rcases hd with rfl | hd | hd | rfl
    · simp [BeginsMarker]
    · exact not_beginsMarker_of_digit (hds d hd)
    · exact not_beginsMarker_of_blank (hgap d hd)
    · simp [BeginsMarker]
  · refine ⟨'P', "lan".toList ++ (gap ++ (ds ++ (gap' ++ [':']))), rfl, .inr rfl, fun d hd ↦ ?_⟩
    simp only [List.mem_append, List.mem_cons, List.not_mem_nil, or_false] at hd
    rcases hd with hd | hd | hd | hd | rfl
    · obtain rfl | rfl | rfl : d = 'l' ∨ d = 'a' ∨ d = 'n' := by simpa using hd
      all_goals simp [BeginsMarker]
    · exact not_beginsMarker_of_blank (hgap d hd)
    · exact not_beginsMarker_of_digit (hds d hd)
    · exact not_beginsMarker_of_blank (hgap' d hd)
    · simp [BeginsMarker]

/-- Every marker is found, wherever it occurs. -/
theorem exists_found_marker {text before marker after : List Char} {found : List Match}
    (h : unitMarker.Finds text found) (htext : text = before ++ (marker ++ after))
    (hmarker : IsMarker marker) : ∃ place ∈ found, place.start = (marker ++ after).length := by
  obtain ⟨c, tail, hcons, hbegins, -⟩ := hmarker.exists_cons
  induction h generalizing before with
  | nil => simp [hcons] at htext
  | @skip d text found hnone hrest ih =>
    rcases before with _ | ⟨e, before⟩
    · have hfound := isSome_first?_of_takes (takes_unitMarker_iff.mpr ⟨hmarker, rfl⟩ :
        unitMarker.Takes marker [] after)
      rw [List.nil_append] at htext
      rw [← htext, hnone] at hfound
      cases hfound
    · exact ih (List.cons.inj htext).2
  | @take taken text marks found hne htakes _ hrest ih =>
    rcases List.append_eq_append_iff.mp htext with ⟨more, rfl, hmore⟩ | ⟨more, rfl, hmore⟩
    · obtain ⟨place, hplace, hstart⟩ := ih hmore
      exact ⟨place, List.mem_cons_of_mem _ hplace, hstart⟩
    · rcases before with _ | ⟨e, before⟩
      · refine ⟨_, List.mem_cons_self, ?_⟩
        rw [hmore]
        rfl
      · obtain ⟨d, rest, htaken, -, htail⟩ :=
          (takes_unitMarker_iff.mp htakes).1.exists_cons
        rcases more with _ | ⟨f, more⟩
        · obtain ⟨place, hplace, hstart⟩ := @ih [] hmore.symm
          exact ⟨place, List.mem_cons_of_mem _ hplace, hstart⟩
        · obtain rfl : c = f := by
            rw [hcons] at hmore
            exact (List.cons.inj hmore).1
          refine absurd hbegins (htail c ?_)
          rw [List.cons_append] at htaken
          rw [← (List.cons.inj htaken).2]
          simp

theorem finds_unitMarker (text : List Char) :
    unitMarker.Finds text (unitMarker.findAll text) := by
  refine finds_findAll (p := unitMarker) (by decide) (fun htakes ↦ ?_) text
  obtain ⟨c, tail, rfl, -⟩ := (takes_unitMarker_iff.mp htakes).1.exists_cons
  exact List.cons_ne_nil c tail

/-! ### What is read -/

/-- Whether the parts of a step have the form that the parts of a unit have. -/
structure IsWellFormed (step : Step) : Prop where
  title : isAllBlank step.title = false
  oneLine : '\n' ∉ step.title.toList
  operation : IsName step.operation.toList
  id : step.id = "" ∨ IsStepId step.id.toList
  template : IsGroup 2 step.template.toList

/-- Whether a step is that of a unit that stands in a text, at a place. -/
def StandsAt (text : List Char) (step : Step) (place : Match) : Prop :=
  ∃ (before : List Char) (u : Parts) (after : List Char), u.IsUnit ∧
    text = before ++ u.text after ∧ place.start = (u.text after).length ∧
    place.stop = after.length ∧ step = u.step

/-- What holds of a plan that is read from a text. -/
structure IsPlanOf (text : List Char) (plan : Plan) : Prop where
  rawText : plan.rawText = String.ofList text
  steps : plan.steps ≠ []
  wellFormed : ∀ step ∈ plan.steps, IsWellFormed step
  stands : List.Forall₂ (StandsAt text) plan.steps (unit.findAll text)
  ordered : (unit.findAll text).Pairwise fun earlier later ↦
    later.start ≤ earlier.stop ∧ later.start < earlier.start
  covered : ∀ before marker after, text = before ++ (marker ++ after) → IsMarker marker →
    ∃ place ∈ unit.findAll text,
      place.stop < (marker ++ after).length ∧ (marker ++ after).length ≤ place.start

/-- Whether a run whose planner writes a text fails, with a fault of its text. -/
def Refuses (text : String) (fault : PlanFault) : Prop :=
  ∀ (σ : Type) (team : Team σ) (run : Run) (scene : Scene σ), run.stage = .plan →
    (team.planner run.task scene.outside).1.outcome = .ok text →
      (run.advance team scene).fault = some (.planText fault.message)

theorem exists_mem_of_forall₂ {α β : Type} {R : α → β → Prop} {xs : List α} {ys : List β}
    (h : List.Forall₂ R xs ys) {x : α} (hx : x ∈ xs) : ∃ y ∈ ys, R x y := by
  induction h with
  | nil => cases hx
  | cons hxy _ ih =>
    rcases List.mem_cons.mp hx with rfl | hx
    · exact ⟨_, List.mem_cons_self, hxy⟩
    · obtain ⟨y, hy, hxy⟩ := ih hx
      exact ⟨y, List.mem_cons_of_mem _ hy, hxy⟩

theorem forall₂_of_mapM {α β ε : Type} {f : α → Except ε β} {xs : List α} {ys : List β}
    (h : xs.mapM f = .ok ys) : List.Forall₂ (fun y x ↦ f x = .ok y) ys xs := by
  induction xs generalizing ys with
  | nil =>
    cases h
    exact .nil
  | cons x xs ih =>
    simp only [List.mapM_cons, bind, Except.bind, pure, Except.pure] at h
    split at h
    · cases h
    · next y hy =>
      split at h
      · cases h
      · next rest hrest =>
        cases h
        exact .cons hy (ih hrest)

/-- A plan is read by way of its units, its markers and the check of its steps. -/
theorem parse_eq_ok {text : String} {plan : Plan} (h : parse text = .ok plan) :
    List.Forall₂ (fun step place ↦ stepOf text.toList place = .ok step) plan.steps
        (unit.findAll text.toList) ∧
      ((unitMarker.findAll text.toList).find? fun marker ↦
        !(unit.findAll text.toList).any (startsInside marker)) = none := by
  unfold parse at h
  simp only [bind, Except.bind] at h
  split at h
  · cases h
  · next steps hsteps =>
    split at h
    · cases h
    · next hnone =>
      obtain ⟨-, -, rfl⟩ := check_eq_ok_iff.mp h
      exact ⟨forall₂_of_mapM hsteps, hnone⟩

/-- A step was made of a unit that stands where its match is. -/
theorem standsAt_of_stepOf {text : List Char} {step : Step} {place : Match}
    (hplace : place ∈ unit.findAll text) (hstep : stepOf text place = .ok step) :
    StandsAt text step place := by
  obtain ⟨before, taken, marks, after, rfl, -, htakes, rfl⟩ :=
    (finds_units text).exists_takes hplace
  obtain ⟨u, hu, rfl, rfl⟩ := exists_parts_of_takes htakes
  rw [u.text_append] at hstep ⊢
  change stepOf _ (u.found after) = _ at hstep
  rw [stepOf_eq hu] at hstep
  split at hstep
  · cases hstep
  · obtain rfl := Except.ok.inj hstep
    exact ⟨before, u, after, hu, rfl, u.start_found after, rfl, rfl⟩

/-- The parts of a step have the form of the parts of its unit. -/
theorem isWellFormed_of_standsAt {text : List Char} {step : Step} {place : Match}
    (h : StandsAt text step place) (hcomplete : step.missingPart = none) : IsWellFormed step := by
  obtain ⟨before, u, after, hu, -, -, -, rfl⟩ := h
  refine ⟨?_, ?_, by simpa [Parts.step] using hu.operation, ?_, by simpa [Parts.step] using hu.blob⟩
  · unfold Step.missingPart at hcomplete
    split at hcomplete
    · cases hcomplete
    · next htitle => simpa using htitle
  · intro hline
    rw [Parts.step, String.toList_ofList] at hline
    exact hu.title ((cleanTitle_isInfix u.title).subset hline)
  · rcases hu.id with hid | hid
    · exact .inl (by simp [Parts.step, hid])
    · exact .inr (by simpa [Parts.step] using hid)

/-- What is read is a plan of the units of its text. -/
theorem isPlanOf_of_parse {text : String} {plan : Plan} (h : parse text = .ok plan) :
    IsPlanOf text.toList plan := by
  obtain ⟨hne, hcomplete, hplan⟩ := check_eq_ok_iff.mp (check_of_parse h)
  obtain ⟨hsteps, hmarkers⟩ := parse_eq_ok h
  have hstands : List.Forall₂ (StandsAt text.toList) plan.steps (unit.findAll text.toList) := by
    obtain ⟨hlength, hmade⟩ := List.forall₂_iff_zip.mp hsteps
    exact List.forall₂_iff_zip.mpr ⟨hlength, fun hzip ↦
      standsAt_of_stepOf (List.of_mem_zip hzip).2 (hmade hzip)⟩
  refine ⟨by rw [hplan, String.ofList_toList], hne, fun step hstep ↦ ?_, hstands,
    (finds_units _).pairwise, fun before marker after htext hmarker ↦ ?_⟩
  · obtain ⟨place, -, hat⟩ := exists_mem_of_forall₂ hstands hstep
    exact isWellFormed_of_standsAt hat (hcomplete step hstep)
  · obtain ⟨found, hfound, hstart⟩ := exists_found_marker (finds_unitMarker _) htext hmarker
    have hinside := List.find?_eq_none.mp hmarkers found hfound
    simp only [Bool.not_eq_true, Bool.not_eq_false', List.any_eq_true, startsInside,
      Bool.and_eq_true, decide_eq_true_eq, hstart] at hinside
    obtain ⟨place, hplace, hbefore, hafter⟩ := hinside
    exact ⟨place, hplace, hafter, hbefore⟩

/-- A plan has no more steps than its text has characters. -/
theorem size_le_length_of_parse {text : String} {plan : Plan} (h : parse text = .ok plan) :
    plan.size ≤ text.length := by
  have hsteps : plan.steps.length = (unit.findAll text.toList).length :=
    (parse_eq_ok h).1.length_eq
  have hfound := (finds_units text.toList).length_le
  rw [size, hsteps, ← String.length_toList]
  exact hfound

/-- A text that is not read fails the run as a plan that cannot be parsed. -/
theorem refuses_of_parse {text : String} {fault : PlanFault} (h : parse text = .error fault) :
    Refuses text fault := by
  intro σ team run scene hstage hplanner
  have hask : (team.ask (.plan run.task) scene.outside).1.outcome = .ok (.str text) := by
    simp [Team.ask, hplanner, Except.map]
  rw [Run.fault_advance, Run.turn_of_asked _ (Run.inquiry_plan team hstage)]
  simp only [hask, Run.settle_plan text hstage, h]

/-- A text that is read is read as a plan of its units; any other text fails the run as a plan. -/
theorem parse_sound (text : String) :
    match parse text with
    | .ok plan => IsPlanOf text.toList plan
    | .error fault => Refuses text fault := by
  cases hparse : parse text with
  | error fault => exact refuses_of_parse hparse
  | ok plan => exact isPlanOf_of_parse hparse

end Errand.Plan
