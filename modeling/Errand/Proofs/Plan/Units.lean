import Errand.Proofs.Plan.Shape
import Errand.Proofs.Text.Classes
import Errand.Proofs.Text.Finding

/-!
# The units that are found in a text

A unit that is found has parts, and the groups of its match are these parts (`group_title` and its
companions). The step that is made of it holds the cleaned title and the other parts as they stand
in the text, because none of them begins or ends with a blank (`stepOf_eq`). `finds_units` is the
search for units, and `Parts.text_ne_nil` says that no unit is empty.
-/

set_option autoImplicit false

namespace Errand.Plan

open Text Text.Pattern

theorem between_append (front middle back : List Char) :
    between (front ++ (middle ++ back)) (middle ++ back).length back.length = middle := by
  simp [between]

/-! ### Lookups of the marks -/

namespace Parts

variable (u : Parts) (before after : List Char)

/-- The match of a unit. -/
def found : Match :=
  takenMatch (u.text []) (u.marks after) after

theorem start_found : (u.found after).start = (u.text after).length := by
  rw [found, takenMatch, u.text_append]

theorem stop_found : (u.found after).stop = after.length := rfl

theorem text_found : (u.found after).text (before ++ u.text after) = u.text [] := by
  rw [Match.text, start_found, stop_found, ← u.text_append after, between_append]

/-- What precedes the title. -/
theorem text_eq_title :
    before ++ u.text after =
      before ++ (u.heading ++ u.markup) ++ (u.title ++ (u.breaks ++ u.fromId after)) := by
  simp [text, fromTitle]

theorem text_eq_id :
    before ++ u.text after =
      before ++ (u.heading ++ (u.markup ++ (u.title ++ u.breaks))) ++
        (u.id ++ (u.equals ++ u.fromOperation after)) := by
  simp [text, fromTitle, fromId]

theorem text_eq_operation :
    before ++ u.text after =
      before ++ (u.heading ++ (u.markup ++ (u.title ++ (u.breaks ++ (u.id ++ u.equals))))) ++
        (u.operation ++ (u.beforeBracket ++ '[' :: (u.beforeBlob ++ u.fromBlob after))) := by
  simp [text, fromTitle, fromId, fromOperation]

theorem text_eq_blob :
    before ++ u.text after =
      before ++ (u.heading ++ (u.markup ++ (u.title ++ (u.breaks ++ (u.id ++ (u.equals ++
        (u.operation ++ (u.beforeBracket ++ '[' :: u.beforeBlob)))))))) ++
        (u.blob ++ (u.afterBlob ++ ']' :: after)) := by
  simp [text, fromTitle, fromId, fromOperation, fromBlob]

theorem group_title : (u.found after).group (before ++ u.text after) 1 2 = u.title := by
  have hgroup : (u.found after).group (before ++ u.text after) 1 2 =
      between (before ++ u.text after) (u.fromTitle after).length
        (u.breaks ++ u.fromId after).length := rfl
  rw [hgroup, text_eq_title, fromTitle, between_append]

theorem marks_found_of_nil (hid : u.id = []) : (u.found after).marks =
    [(1, (u.fromTitle after).length), (2, (u.breaks ++ u.fromId after).length),
      (5, (u.fromOperation after).length),
      (6, (u.beforeBracket ++ '[' :: (u.beforeBlob ++ u.fromBlob after)).length),
      (7, (u.fromBlob after).length), (8, (u.afterBlob ++ ']' :: after).length),
      (endMark, after.length)] := by
  simp only [found, takenMatch, marks, idMarks, hid, if_true]
  rfl

theorem marks_found_of_ne_nil (hid : u.id ≠ []) : (u.found after).marks =
    [(1, (u.fromTitle after).length), (2, (u.breaks ++ u.fromId after).length),
      (3, (u.fromId after).length), (4, (u.equals ++ u.fromOperation after).length),
      (5, (u.fromOperation after).length),
      (6, (u.beforeBracket ++ '[' :: (u.beforeBlob ++ u.fromBlob after)).length),
      (7, (u.fromBlob after).length), (8, (u.afterBlob ++ ']' :: after).length),
      (endMark, after.length)] := by
  simp only [found, takenMatch, marks, idMarks, hid, if_false]
  rfl

theorem group_id : (u.found after).group (before ++ u.text after) 3 4 = u.id := by
  by_cases hid : u.id = []
  · rw [Match.group, marks_found_of_nil u after hid, hid]
    rfl
  · rw [Match.group, marks_found_of_ne_nil u after hid, text_eq_id]
    exact between_append _ u.id _

theorem group_operation : (u.found after).group (before ++ u.text after) 5 6 = u.operation := by
  have hgroup : (u.found after).group (before ++ u.text after) 5 6 =
      between (before ++ u.text after) (u.fromOperation after).length
        (u.beforeBracket ++ '[' :: (u.beforeBlob ++ u.fromBlob after)).length := by
    by_cases hid : u.id = []
    · rw [Match.group, marks_found_of_nil u after hid]
      rfl
    · rw [Match.group, marks_found_of_ne_nil u after hid]
      rfl
  rw [hgroup, text_eq_operation, fromOperation, between_append]

theorem group_blob : (u.found after).group (before ++ u.text after) 7 8 = u.blob := by
  have hgroup : (u.found after).group (before ++ u.text after) 7 8 =
      between (before ++ u.text after) (u.fromBlob after).length
        (u.afterBlob ++ ']' :: after).length := by
    by_cases hid : u.id = []
    · rw [Match.group, marks_found_of_nil u after hid]
      rfl
    · rw [Match.group, marks_found_of_ne_nil u after hid]
      rfl
  rw [hgroup, text_eq_blob, fromBlob, between_append]

/-! ### The step of a unit -/

/-- The step that a unit stands for. -/
def step : Step where
  title := String.ofList (cleanTitle u.title)
  id := String.ofList u.id
  operation := String.ofList u.operation
  template := String.ofList u.blob

end Parts

theorem IsStepId.trim_eq {id : List Char} (h : IsStepId id) : trim id = id := by
  obtain ⟨ds, -, hds, rfl⟩ := h
  refine trim_eq_self_of_forall fun c hc ↦ ?_
  rw [List.mem_cons, List.mem_cons] at hc
  rcases hc with rfl | rfl | hc
  · decide
  · decide
  · exact isBlank_of_digit (hds c hc)

theorem IsName.trim_eq {name : List Char} (h : IsName name) : trim name = name :=
  trim_eq_self_of_forall fun c hc ↦ isBlank_of_word (h.2 c hc)

theorem trim_group {limit : Nat} {blob : List Char} (h : IsGroup limit blob) :
    trim blob = blob := by
  refine trim_eq_self ?_ ?_
  · rw [h.head?]
    rintro c ⟨⟩
    decide
  · rw [h.getLast?]
    rintro c ⟨⟩
    decide

theorem ne_nil_of_group {limit : Nat} {blob : List Char} (h : IsGroup limit blob) : blob ≠ [] := by
  obtain ⟨inner, rfl, -⟩ := h
  exact List.cons_ne_nil _ _

/-- What is made of a unit that was found: only the title can be missing. -/
theorem stepOf_eq {u : Parts} (hu : u.IsUnit) (before after : List Char) :
    stepOf (before ++ u.text after) (u.found after) =
      if cleanTitle u.title = [] then
        .error (.malformedUnit (String.ofList (trim (u.text []))))
      else .ok u.step := by
  have hid : trim u.id = u.id := by
    rcases hu.id with hid | hid
    · rw [hid]
      rfl
    · exact hid.trim_eq
  have hname : u.operation ≠ [] := hu.operation.1
  have hblob : u.blob ≠ [] := ne_nil_of_group hu.blob
  simp only [stepOf, Parts.group_title, Parts.group_id, Parts.group_operation, Parts.group_blob,
    Parts.text_found, hid, hu.operation.trim_eq, trim_group hu.blob, List.isEmpty_iff,
    Bool.or_eq_true, hname, hblob, or_false]
  rfl

/-! ### The search for units -/

theorem Parts.text_ne_nil (u : Parts) (after : List Char) : u.text after ≠ [] := by
  simp [Parts.text, Parts.fromTitle, Parts.fromId, Parts.fromOperation]

theorem takes_unit_ne_nil {taken text : List Char} {marks : Marks}
    (h : unit.Takes taken marks text) : taken ≠ [] := by
  obtain ⟨u, -, rfl, -⟩ := exists_parts_of_takes h
  exact u.text_ne_nil []

theorem first?_nil : unit.first? [] = none := by
  refine Option.eq_none_iff_forall_ne_some.mpr fun found hfound ↦ ?_
  obtain ⟨taken, after, marks, htext, htakes, -⟩ := exists_takes_of_first? (by decide) hfound
  exact takes_unit_ne_nil htakes (List.append_eq_nil_iff.mp htext.symm).1

/-- What is found at the start of a text is a unit, and the search goes on behind it. -/
theorem exists_unit_of_isSome {text : List Char} (h : (unit.first? text).isSome) :
    ∃ (u : Parts) (after : List Char), u.IsUnit ∧ text = u.text after ∧
      unit.findAll text = u.found after :: unit.findAll after := by
  obtain ⟨found, hfound⟩ := Option.isSome_iff_exists.mp h
  obtain ⟨taken, after, marks, rfl, htakes, rfl⟩ := exists_takes_of_first? (by decide) hfound
  obtain ⟨u, hu, rfl, rfl⟩ := exists_parts_of_takes htakes
  exact ⟨u, after, hu, u.text_append after, findAll_found (u.text_ne_nil []) hfound rfl⟩

/-- If a heading is taken and the other parts match behind it, a unit with that heading is found. -/
theorem exists_unit_of_heading {front tail : List Char} {marks : Marks}
    (hkind : IsMarkedHeading front ∨ IsPlainHeading front)
    (hfront : ∀ {rest : Continue} {marks : Marks}, rest tail.length tail = some marks →
      (optional heading).run rest (front ++ tail).length (front ++ tail) = some marks)
    (hbody : body.run ((Pattern.mark endMark).run finish) tail.length tail = some marks) :
    ∃ (u : Parts) (after : List Char), u.IsUnit ∧ u.heading = front ∧ front ++ tail = u.text after ∧
      marks = u.marks after ++ [(endMark, after.length)] ∧
      unit.first? (front ++ tail) = some (u.found after) := by
  have hunit := hfront hbody
  obtain ⟨taken, after, noted, later, rfl, htakes, hlater, rfl⟩ := exists_takes_of_run _ hbody
  obtain rfl : [(endMark, after.length)] = later := Option.some.inj hlater
  obtain ⟨u, hu, hheading, hutext, rfl⟩ := exists_parts_of_takes_body htakes (.inr hkind)
  have hwhole : front ++ (taken ++ after) = u.text after := by
    rw [← u.text_append, ← hutext, List.append_assoc]
  refine ⟨u, after, hu, hheading, hwhole, rfl, ?_⟩
  have hmatch : (Pattern.seq unit (.mark endMark)).matchAt (u.text after) =
      some (u.marks after ++ [(endMark, after.length)]) := by
    rw [← hwhole]
    exact hunit
  have hend : (u.marks after).lookup endMark = none := htakes.lookup_eq_none (by decide)
  rw [hwhole, first?, hmatch]
  simp [Parts.found, takenMatch, List.lookup_append, hend, u.text_append]

/-- Units are found from the start of a text to its end. -/
theorem finds_units (text : List Char) : unit.Finds text (unit.findAll text) :=
  finds_findAll (by decide) takes_unit_ne_nil text

end Errand.Plan
