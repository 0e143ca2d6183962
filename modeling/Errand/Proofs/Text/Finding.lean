import Errand.Proofs.Text.Takes

/-!
# Everything that is found

`Finds p text found` tells how a text is searched: a position where nothing matches is passed over,
and a match is followed by the search of the text after it. `finds_findAll` says that `findAll` does
just that, for a pattern that takes a character at least and leaves the end mark alone.
-/

set_option autoImplicit false

namespace Errand.Text.Pattern

/-- The numbers of the marks in a pattern. -/
def notes : Pattern → List Nat
  | .empty | .one _ => []
  | .mark number => [number]
  | .seq p q | .either p q => p.notes ++ q.notes
  | .many p | .few p => p.notes

/-- A pattern notes no marks but its own. -/
theorem Takes.mem_notes {p : Pattern} {taken text : List Char} {marks : Marks}
    (h : p.Takes taken marks text) : ∀ note ∈ marks, note.1 ∈ p.notes := by
  induction h with
  | empty | one | manyNil | fewNil => simp
  | mark => simp [notes]
  | seq _ _ ihp ihq =>
    intro note hnote
    rw [notes, List.mem_append]
    exact (List.mem_append.mp hnote).imp (ihp note) (ihq note)
  | left _ ih => exact fun note hnote ↦ List.mem_append_left _ (ih note hnote)
  | right _ ih => exact fun note hnote ↦ List.mem_append_right _ (ih note hnote)
  | manyCons _ _ _ ihp ihmany | fewCons _ _ _ ihp ihmany =>
    intro note hnote
    exact (List.mem_append.mp hnote).elim (ihp note) (ihmany note)

theorem Takes.lookup_eq_none {p : Pattern} {taken text : List Char} {marks : Marks}
    (h : p.Takes taken marks text) {number : Nat} (hnumber : number ∉ p.notes) :
    marks.lookup number = none := by
  refine List.lookup_eq_none_iff.mpr fun note hnote ↦ ?_
  have hne : number ≠ note.1 := fun heq ↦ hnumber (heq ▸ h.mem_notes note hnote)
  simpa using hne

/-- The match of a text that was taken at the start of another. -/
def takenMatch (taken : List Char) (marks : Marks) (text : List Char) : Match where
  start := (taken ++ text).length
  stop := text.length
  marks := marks ++ [(endMark, text.length)]

/-- What is found at the start of a text has been taken there. -/
theorem exists_takes_of_first? {p : Pattern} (hend : endMark ∉ p.notes) {text : List Char}
    {found : Match} (h : p.first? text = some found) :
    ∃ taken after marks, text = taken ++ after ∧ p.Takes taken marks after ∧
      found = takenMatch taken marks after := by
  obtain ⟨marks, hmatch, rfl⟩ := Option.map_eq_some_iff.mp h
  obtain ⟨whole, after, noted, later, rfl, htakes, hfinish, rfl⟩ := exists_takes_of_run _ hmatch
  obtain ⟨taken, last, noted, noted', rfl, rfl, hp, hlast⟩ := takes_seq_iff.mp htakes
  obtain ⟨rfl, rfl⟩ := takes_mark_iff.mp hlast
  obtain rfl : later = [] := by simpa [finish] using hfinish.symm
  rw [List.nil_append] at hp
  refine ⟨taken, after, noted, by simp, hp, ?_⟩
  simp [takenMatch, hp.lookup_eq_none hend, List.lookup_append]

/-- Where something can be taken, something is found. -/
theorem isSome_first?_of_takes {p : Pattern} {taken text : List Char} {marks : Marks}
    (h : p.Takes taken marks text) : (p.first? (taken ++ text)).isSome := by
  rw [first?, Option.isSome_map, matchAt]
  have hseq : (Pattern.seq p (.mark endMark)).Takes (taken ++ []) (marks ++ _) text :=
    .seq (by simpa using h) .mark
  rw [List.append_nil] at hseq
  exact isSome_run_of_takes hseq rfl

/-- How a text is searched. -/
inductive Finds (p : Pattern) : List Char → List Match → Prop
  | nil : Finds p [] []
  /-- A position where nothing matches. -/
  | skip {c : Char} {text : List Char} {found : List Match} (hnone : p.first? (c :: text) = none)
      (hrest : Finds p text found) : Finds p (c :: text) found
  /-- A match, and what is found after it. -/
  | take {taken text : List Char} {marks : Marks} {found : List Match} (hne : taken ≠ [])
      (htakes : p.Takes taken marks text)
      (hfirst : p.first? (taken ++ text) = some (takenMatch taken marks text))
      (hrest : Finds p text found) : Finds p (taken ++ text) (takenMatch taken marks text :: found)

section Finds

variable {p : Pattern} {text : List Char} {found : List Match}

/-- What is found was taken somewhere in the text. -/
theorem Finds.exists_takes (h : p.Finds text found) {place : Match} (hplace : place ∈ found) :
    ∃ before taken marks after, text = before ++ (taken ++ after) ∧ taken ≠ [] ∧
      p.Takes taken marks after ∧ place = takenMatch taken marks after := by
  induction h with
  | nil => cases hplace
  | @skip c text found _ _ ih =>
    obtain ⟨before, taken, marks, after, rfl, hrest⟩ := ih hplace
    exact ⟨c :: before, taken, marks, after, rfl, hrest⟩
  | @take taken text marks found hne htakes _ _ ih =>
    rcases List.mem_cons.mp hplace with rfl | hplace
    · exact ⟨[], taken, marks, text, rfl, hne, htakes, rfl⟩
    · obtain ⟨before, taken', marks', after, rfl, hrest⟩ := ih hplace
      exact ⟨taken ++ before, taken', marks', after, by simp, hrest⟩

theorem Finds.start_le (h : p.Finds text found) {place : Match} (hplace : place ∈ found) :
    place.start ≤ text.length := by
  obtain ⟨before, taken, marks, after, rfl, -, -, rfl⟩ := h.exists_takes hplace
  simp [takenMatch]

/-- A match comes after the whole of those that are found before it. -/
theorem Finds.pairwise (h : p.Finds text found) :
    found.Pairwise fun earlier later ↦
      later.start ≤ earlier.stop ∧ later.start < earlier.start := by
  induction h with
  | nil => exact .nil
  | skip _ _ ih => exact ih
  | @take taken text marks found hne _ _ hrest ih =>
    refine .cons (fun later hlater ↦ ?_) ih
    have hle := hrest.start_le hlater
    have hpos := List.length_pos_iff.mpr hne
    simp only [takenMatch, List.length_append]
    omega

/-- No more is found in a text than it has characters. -/
theorem Finds.length_le (h : p.Finds text found) : found.length ≤ text.length := by
  induction h with
  | nil => exact Nat.le_refl 0
  | skip _ _ ih => exact Nat.le_succ_of_le ih
  | @take taken text marks found hne _ _ _ ih =>
    have hpos := List.length_pos_iff.mpr hne
    simp only [List.length_cons, List.length_append]
    omega

end Finds

/-- A text is searched from its start to its end, and nothing is found twice. -/
theorem finds_findAll {p : Pattern} (hend : endMark ∉ p.notes)
    (hne : ∀ {taken text marks}, p.Takes taken marks text → taken ≠ []) (text : List Char) :
    p.Finds text (p.findAll text) := by
  have hempty : p.first? [] = none := by
    refine Option.eq_none_iff_forall_ne_some.mpr fun found hfound ↦ ?_
    obtain ⟨taken, after, marks, htext, htakes, -⟩ := exists_takes_of_first? hend hfound
    exact hne htakes (List.append_eq_nil_iff.mp htext.symm).1
  induction hlength : text.length using Nat.strongRecOn generalizing text with
  | ind length ih =>
    subst hlength
    rcases text with _ | ⟨c, text⟩
    · rw [findAll_nil hempty]
      exact .nil
    · cases hfirst : p.first? (c :: text) with
      | none =>
        rw [findAll_skip hempty hfirst]
        exact .skip hfirst (ih _ (by simp) text rfl)
      | some found =>
        obtain ⟨taken, after, marks, htext, htakes, rfl⟩ := exists_takes_of_first? hend hfirst
        have hlt : after.length < (c :: text).length := by
          have hpos := List.length_pos_iff.mpr (hne htakes)
          rw [htext, List.length_append]
          omega
        have hrest := ih _ hlt after rfl
        rw [htext] at hfirst ⊢
        rw [findAll_found (hne htakes) hfirst rfl]
        exact .take (hne htakes) htakes hfirst hrest

end Errand.Text.Pattern
