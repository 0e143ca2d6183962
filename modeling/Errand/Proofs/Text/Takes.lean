import Errand.Proofs.Text.Search

/-!
# What a pattern takes

`p.Takes taken marks text` says that a pattern can take a text, in front of another one, and which
marks it notes there. It knows no preference: it holds for every way to match. Matching is sound and
complete for it. What is matched has been taken (`exists_takes_of_run`), and where something can be
taken in front of what remains, something is matched (`isSome_run_of_takes`).

The lemmas of the second half say what the building blocks of patterns take: classes of characters,
literals, optional parts, repetitions of a class.
-/

set_option autoImplicit false

namespace Errand.Text.Pattern

/-- The texts that a pattern can take in front of a text, and the marks that it notes. -/
inductive Takes : Pattern → List Char → Marks → List Char → Prop
  | empty {text : List Char} : Takes .empty [] [] text
  | one {accepts : Char → Bool} {c : Char} {text : List Char} (hc : accepts c) :
      Takes (.one accepts) [c] [] text
  | mark {number : Nat} {text : List Char} : Takes (.mark number) [] [(number, text.length)] text
  | seq {p q : Pattern} {first second text : List Char} {marks marks' : Marks}
      (hp : Takes p first marks (second ++ text)) (hq : Takes q second marks' text) :
      Takes (.seq p q) (first ++ second) (marks ++ marks') text
  | left {p q : Pattern} {taken text : List Char} {marks : Marks} (hp : Takes p taken marks text) :
      Takes (.either p q) taken marks text
  | right {p q : Pattern} {taken text : List Char} {marks : Marks} (hq : Takes q taken marks text) :
      Takes (.either p q) taken marks text
  | manyNil {p : Pattern} {text : List Char} : Takes (.many p) [] [] text
  | manyCons {p : Pattern} {first second text : List Char} {marks marks' : Marks}
      (hne : first ≠ []) (hp : Takes p first marks (second ++ text))
      (hmany : Takes (.many p) second marks' text) :
      Takes (.many p) (first ++ second) (marks ++ marks') text
  | fewNil {p : Pattern} {text : List Char} : Takes (.few p) [] [] text
  | fewCons {p : Pattern} {first second text : List Char} {marks marks' : Marks}
      (hne : first ≠ []) (hp : Takes p first marks (second ++ text))
      (hfew : Takes (.few p) second marks' text) :
      Takes (.few p) (first ++ second) (marks ++ marks') text

/-! ### Matching and taking -/

/-- What matching with a rest comes to: the pattern takes a text, and the rest gives its marks. -/
def TakesThen (p : Pattern) (rest : Continue) (text : List Char) (marks : Marks) : Prop :=
  ∃ taken after noted later, text = taken ++ after ∧ p.Takes taken noted after ∧
    rest after.length after = some later ∧ marks = noted ++ later

/-- One more repetition and again, as a way of taking. -/
theorem TakesThen.again {p q : Pattern} {rest : Continue} {text : List Char} {marks : Marks}
    (hp : p.TakesThen (onward text.length (q.run rest)) text marks)
    (hq : ∀ after marks, after.length < text.length → q.run rest after.length after = some marks →
      q.TakesThen rest after marks)
    (hcons : ∀ {first second after : List Char} {noted noted' : Marks}, first ≠ [] →
      Takes p first noted (second ++ after) → Takes q second noted' after →
      Takes q (first ++ second) (noted ++ noted') after) : q.TakesThen rest text marks := by
  obtain ⟨first, after, noted, later, rfl, htakes, hrest, rfl⟩ := hp
  obtain ⟨hlt, hrun⟩ : after.length < (first ++ after).length ∧
      q.run rest after.length after = some later := by
    unfold onward at hrest
    split at hrest
    · next hlt => exact ⟨hlt, hrest⟩
    · cases hrest
  obtain ⟨second, after, noted', later, rfl, htakes', hlater, rfl⟩ := hq after later hlt hrun
  have hne : first ≠ [] := by
    rintro rfl
    simp at hlt
  exact ⟨first ++ second, after, noted ++ noted', later, by simp, hcons hne htakes htakes', hlater,
    by simp⟩

/-- What is matched has been taken. -/
theorem exists_takes_of_run (p : Pattern) {rest : Continue} {text : List Char} {marks : Marks}
    (h : p.run rest text.length text = some marks) : p.TakesThen rest text marks := by
  induction p generalizing rest text marks with
  | empty => exact ⟨[], text, [], marks, rfl, .empty, h, rfl⟩
  | one accepts =>
    cases text with
    | nil => cases h
    | cons c text =>
      simp only [run] at h
      split at h
      · next hc => exact ⟨[c], text, [], marks, rfl, .one hc, by simpa using h, rfl⟩
      · cases h
  | mark number =>
    simp only [run] at h
    obtain ⟨later, hrest, rfl⟩ := Option.map_eq_some_iff.mp h
    exact ⟨[], text, _, later, rfl, .mark, hrest, rfl⟩
  | seq p q ihp ihq =>
    obtain ⟨first, after, noted, later, rfl, hp, hrun, rfl⟩ := ihp h
    obtain ⟨second, after, noted', later, rfl, hq, hrest, rfl⟩ := ihq hrun
    exact ⟨first ++ second, after, noted ++ noted', later, by simp, .seq hp hq, hrest, by simp⟩
  | either p q ihp ihq =>
    simp only [run] at h
    rcases Option.or_eq_some_iff.mp h with hp | ⟨-, hq⟩
    · obtain ⟨taken, after, noted, later, htext, htakes, hrest⟩ := ihp hp
      exact ⟨taken, after, noted, later, htext, .left htakes, hrest⟩
    · obtain ⟨taken, after, noted, later, htext, htakes, hrest⟩ := ihq hq
      exact ⟨taken, after, noted, later, htext, .right htakes, hrest⟩
  | many p ih =>
    induction hlength : text.length using Nat.strongRecOn generalizing text marks with
    | ind length ihlength =>
      subst hlength
      rw [run_many] at h
      rcases Option.or_eq_some_iff.mp h with hmore | ⟨-, hstop⟩
      · exact (ih hmore).again (fun after marks hlt hrun ↦ ihlength _ hlt hrun rfl) .manyCons
      · exact ⟨[], text, [], marks, rfl, .manyNil, hstop, rfl⟩
  | few p ih =>
    induction hlength : text.length using Nat.strongRecOn generalizing text marks with
    | ind length ihlength =>
      subst hlength
      rw [run_few] at h
      rcases Option.or_eq_some_iff.mp h with hstop | ⟨-, hmore⟩
      · exact ⟨[], text, [], marks, rfl, .fewNil, hstop, rfl⟩
      · exact (ih hmore).again (fun after marks hlt hrun ↦ ihlength _ hlt hrun rfl) .fewCons

/-- Where something can be taken in front of what remains, something is matched. -/
theorem isSome_run_of_takes {p : Pattern} {taken text : List Char} {marks : Marks}
    (h : p.Takes taken marks text) {rest : Continue} (hrest : (rest text.length text).isSome) :
    (p.run rest (taken ++ text).length (taken ++ text)).isSome := by
  induction h generalizing rest with
  | empty => exact hrest
  | one hc => simpa [run, hc] using hrest
  | mark => simpa [run] using hrest
  | seq _ _ ihp ihq =>
    rw [List.append_assoc]
    exact ihp (ihq hrest)
  | left _ ih =>
    rw [run, Option.isSome_or, ih hrest]
    rfl
  | right _ ih =>
    rw [run, Option.isSome_or, ih hrest]
    exact Bool.or_true _
  | manyNil => simp [run_many, Option.isSome_or, hrest]
  | @manyCons p first second text _ _ hne _ _ ihp ihmany =>
    rw [run_many, Option.isSome_or, Bool.or_eq_true, List.append_assoc]
    refine .inl (ihp ?_)
    have hlt : (second ++ text).length < (first ++ (second ++ text)).length := by
      have hpos := List.length_pos_iff.mpr hne
      simp only [List.length_append]
      omega
    rw [onward_of_lt hlt]
    exact ihmany hrest
  | fewNil => simp [run_few, Option.isSome_or, hrest]
  | @fewCons p first second text _ _ hne _ _ ihp ihfew =>
    rw [run_few, Option.isSome_or, Bool.or_eq_true, List.append_assoc]
    refine .inr (ihp ?_)
    have hlt : (second ++ text).length < (first ++ (second ++ text)).length := by
      have hpos := List.length_pos_iff.mpr hne
      simp only [List.length_append]
      omega
    rw [onward_of_lt hlt]
    exact ihfew hrest

/-! ### What building blocks take -/

section Blocks

variable {p q : Pattern} {taken text : List Char} {marks : Marks}

theorem takes_empty_iff : Pattern.empty.Takes taken marks text ↔ taken = [] ∧ marks = [] := by
  constructor
  · intro h
    cases h
    exact ⟨rfl, rfl⟩
  · rintro ⟨rfl, rfl⟩
    exact .empty

theorem takes_one_iff {accepts : Char → Bool} :
    (Pattern.one accepts).Takes taken marks text ↔
      ∃ c, accepts c ∧ taken = [c] ∧ marks = [] := by
  constructor
  · intro h
    cases h with
    | one hc => exact ⟨_, hc, rfl, rfl⟩
  · rintro ⟨c, hc, rfl, rfl⟩
    exact .one hc

theorem takes_mark_iff {number : Nat} :
    (Pattern.mark number).Takes taken marks text ↔
      taken = [] ∧ marks = [(number, text.length)] := by
  constructor
  · intro h
    cases h
    exact ⟨rfl, rfl⟩
  · rintro ⟨rfl, rfl⟩
    exact .mark

theorem takes_seq_iff :
    (Pattern.seq p q).Takes taken marks text ↔
      ∃ first second noted noted', taken = first ++ second ∧ marks = noted ++ noted' ∧
        p.Takes first noted (second ++ text) ∧ q.Takes second noted' text := by
  constructor
  · intro h
    cases h with
    | seq hp hq => exact ⟨_, _, _, _, rfl, rfl, hp, hq⟩
  · rintro ⟨first, second, noted, noted', rfl, rfl, hp, hq⟩
    exact .seq hp hq

theorem takes_either_iff :
    (Pattern.either p q).Takes taken marks text ↔
      p.Takes taken marks text ∨ q.Takes taken marks text := by
  constructor
  · intro h
    cases h with
    | left hp => exact .inl hp
    | right hq => exact .inr hq
  · rintro (hp | hq)
    · exact .left hp
    · exact .right hq

theorem takes_optional_iff :
    (optional p).Takes taken marks text ↔
      p.Takes taken marks text ∨ taken = [] ∧ marks = [] := by
  rw [optional, takes_either_iff, takes_empty_iff]

/-- What holds of nothing, and of one more repetition in front, holds of all repetitions. -/
@[elab_as_elim]
theorem Takes.many_induction {motive : List Char → Marks → Prop}
    (h : (Pattern.many p).Takes taken marks text) (nil : motive [] [])
    (cons : ∀ {first second noted noted' text}, p.Takes first noted (second ++ text) →
      motive second noted' → motive (first ++ second) (noted ++ noted')) : motive taken marks := by
  generalize hmany : Pattern.many p = repeated at h
  induction h with
  | manyNil => exact nil
  | manyCons _ hp _ _ ih =>
    cases hmany
    exact cons hp (ih rfl)
  | _ => cases hmany

/-- Any number of characters of a class. -/
theorem takes_many_one_iff {accepts : Char → Bool} :
    (Pattern.many (.one accepts)).Takes taken marks text ↔
      (∀ c ∈ taken, accepts c) ∧ marks = [] := by
  constructor
  · intro h
    refine Takes.many_induction h ⟨by simp, rfl⟩ fun hp hmany ↦ ?_
    obtain ⟨c, hc, rfl, rfl⟩ := takes_one_iff.mp hp
    obtain ⟨hclass, rfl⟩ := hmany
    exact ⟨by simpa [hc] using hclass, rfl⟩
  · rintro ⟨hclass, rfl⟩
    induction taken with
    | nil => exact .manyNil
    | cons c taken ih =>
      have hrest := ih fun d hd ↦ hclass d (List.mem_cons_of_mem c hd)
      exact .manyCons (List.cons_ne_nil c []) (.one (hclass c List.mem_cons_self)) hrest

/-- As few characters of a class as possible: any number, as far as taking is concerned. -/
theorem takes_few_one_iff {accepts : Char → Bool} :
    (Pattern.few (.one accepts)).Takes taken marks text ↔
      (∀ c ∈ taken, accepts c) ∧ marks = [] := by
  constructor
  · intro h
    generalize hfew : Pattern.few (.one accepts) = repeated at h
    induction h with
    | fewNil => exact ⟨by simp, rfl⟩
    | fewCons hne hp hfew' _ ih =>
      cases hfew
      obtain ⟨c, hc, rfl, rfl⟩ := takes_one_iff.mp hp
      obtain ⟨hclass, rfl⟩ := ih rfl
      exact ⟨by simpa [hc] using hclass, rfl⟩
    | _ => cases hfew
  · rintro ⟨hclass, rfl⟩
    induction taken with
    | nil => exact .fewNil
    | cons c taken ih =>
      have hrest := ih fun d hd ↦ hclass d (List.mem_cons_of_mem c hd)
      exact .fewCons (List.cons_ne_nil c []) (.one (hclass c List.mem_cons_self)) hrest

theorem takes_oneOrMore_one_iff {accepts : Char → Bool} :
    (oneOrMore (.one accepts)).Takes taken marks text ↔
      taken ≠ [] ∧ (∀ c ∈ taken, accepts c) ∧ marks = [] := by
  rw [oneOrMore, takes_seq_iff]
  constructor
  · rintro ⟨first, second, noted, noted', rfl, rfl, hp, hq⟩
    obtain ⟨c, hc, rfl, rfl⟩ := takes_one_iff.mp hp
    obtain ⟨hclass, rfl⟩ := takes_many_one_iff.mp hq
    exact ⟨by simp, by simpa [hc] using hclass, rfl⟩
  · rintro ⟨hne, hclass, rfl⟩
    obtain ⟨c, tail, rfl⟩ := List.exists_cons_of_ne_nil hne
    refine ⟨[c], tail, [], [], rfl, rfl, .one (hclass c (by simp)), ?_⟩
    exact takes_many_one_iff.mpr ⟨fun d hd ↦ hclass d (by simp [hd]), rfl⟩

theorem takes_char_iff {c : Char} :
    (char c).Takes taken marks text ↔ taken = [c] ∧ marks = [] := by
  simp [char, takes_one_iff]

/-- Given characters, one after another. -/
theorem takes_all_map_char_iff {cs : List Char} :
    (all (cs.map char)).Takes taken marks text ↔ taken = cs ∧ marks = [] := by
  induction cs generalizing taken marks with
  | nil => simp [all, takes_empty_iff]
  | cons c cs ih =>
    cases cs with
    | nil => simp [all, takes_char_iff]
    | cons d cs =>
      change (Pattern.seq (char c) (all ((d :: cs).map char))).Takes taken marks text ↔ _
      simp only [takes_seq_iff, takes_char_iff, ih]
      constructor
      · rintro ⟨first, second, noted, noted', rfl, rfl, ⟨rfl, rfl⟩, rfl, rfl⟩
        exact ⟨rfl, rfl⟩
      · rintro ⟨rfl, rfl⟩
        exact ⟨[c], d :: cs, [], [], rfl, rfl, ⟨rfl, rfl⟩, rfl, rfl⟩

theorem takes_literal_iff {word : String} :
    (literal word).Takes taken marks text ↔ taken = word.toList ∧ marks = [] :=
  takes_all_map_char_iff

/-- A pattern between two marks. -/
theorem takes_capture_iff {first last : Nat} :
    (capture first last p).Takes taken marks text ↔
      ∃ noted, p.Takes taken noted text ∧
        marks = (first, taken.length + text.length) :: noted ++ [(last, text.length)] := by
  simp only [capture, all, takes_seq_iff, takes_mark_iff]
  constructor
  · rintro ⟨before, rest, noted, noted', rfl, rfl, ⟨rfl, rfl⟩, inner, after, noted, noted', rfl,
      rfl, hp, rfl, rfl⟩
    exact ⟨noted, by simpa using hp, by simp⟩
  · rintro ⟨noted, hp, rfl⟩
    exact ⟨[], taken, [(first, (taken ++ text).length)], noted ++ [(last, text.length)], rfl,
      by simp, ⟨rfl, rfl⟩, taken, [], noted, [(last, text.length)], by simp, rfl, hp, rfl, rfl⟩

end Blocks

end Errand.Text.Pattern
