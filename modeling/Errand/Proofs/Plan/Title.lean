import Errand.Proofs.Plan.Shape
import Errand.Proofs.Text.Classes

/-!
# Titles

A title is cleaned in two ways, and `cleanTitle_eq` tells them apart: what is left without the
markup at its start, or the title with its markup where nothing would be left. Either way a title
only loses what stands around it (`cleanTitle_isInfix`).

A plain title has nothing to lose. It comes out as it is, whether blanks stand in front of it
(`cleanTitle_plain`) or the heading of its unit (`cleanTitle_headed`).
-/

set_option autoImplicit false

namespace Errand.Plan

open Text Text.Pattern

/-- A title without the markup at its start. -/
def unmarked (title : List Char) : List Char :=
  match titleMarkup.stopAtStart title with
  | some stop => title.drop (title.length - stop)
  | none => title

/-- A title without the asterisks at its end and without blanks. -/
def polished (title : List Char) : List Char :=
  trim (dropEndWhile (· == '*') (trim title))

theorem cleanTitle_eq (raw : List Char) :
    cleanTitle raw =
      if (polished (unmarked (trim raw))).isEmpty then trim (stripWhile (· == '*') (trim raw))
      else polished (unmarked (trim raw)) := rfl

theorem unmarked_suffix (title : List Char) : unmarked title <:+ title := by
  unfold unmarked
  split
  · exact List.drop_suffix _ _
  · exact List.suffix_rfl

theorem polished_isInfix (title : List Char) : polished title <:+: title :=
  (stripWhile_isInfix isBlank _).trans <| (dropEndWhile_isPrefix _ _).isInfix.trans <|
    stripWhile_isInfix isBlank _

/-- A title only loses what stands around it. -/
theorem cleanTitle_isInfix (raw : List Char) : cleanTitle raw <:+: raw := by
  have htrimmed : trim raw <:+: raw := stripWhile_isInfix isBlank raw
  rw [cleanTitle_eq]
  split
  · exact (stripWhile_isInfix isBlank _).trans ((stripWhile_isInfix _ _).trans htrimmed)
  · exact (polished_isInfix _).trans ((unmarked_suffix _).isInfix.trans htrimmed)

/-- A title does not vanish if it holds a character that is no blank and no asterisk. -/
theorem cleanTitle_ne_nil {title : List Char} {c : Char} (hc : c ∈ title)
    (hblank : isBlank c = false) (hstar : c ≠ '*') : cleanTitle title ≠ [] := by
  have htrim : c ∈ trim (stripWhile (· == '*') (trim title)) :=
    mem_stripWhile (mem_stripWhile (mem_stripWhile hc hblank) (by simpa using hstar)) hblank
  rw [cleanTitle_eq]
  split
  · exact List.ne_nil_of_mem htrim
  · next hrest => simpa using hrest

/-- A title begins with no blank once it is cleaned. -/
theorem head?_cleanTitle (title : List Char) :
    ∀ c ∈ (cleanTitle title).head?, isBlank c = false := by
  rw [cleanTitle_eq]
  split
  · exact head?_stripWhile isBlank _
  · exact head?_stripWhile isBlank _

/-! ### Plain titles -/

/-- Whether a title begins with `Plan`, a number or none, and a colon. -/
def BeginsHeading (title : List Char) : Prop :=
  ∃ gap number gap' rest, IsBlanks gap ∧ IsDigits number ∧ IsBlanks gap' ∧
    title = "Plan".toList ++ (gap ++ (number ++ (gap' ++ ':' :: rest)))

/-- A title on one line, without blanks or markup around it and without an opening bracket. -/
structure IsPlainTitle (title : List Char) : Prop where
  ne_nil : title ≠ []
  line : '\n' ∉ title
  bracket : '[' ∉ title
  trimmed : trim title = title
  head : ∀ c ∈ title.head?, c ≠ '#' ∧ c ≠ '*'
  heading : ¬ BeginsHeading title
  last : ∀ c ∈ title.getLast?, c ≠ '*'

section Plain

variable {title : List Char}

/-- A name is a plain title, unless it begins as a heading does. -/
theorem isPlainTitle_of_name (h : IsName title) (hhead : title.head? ≠ some 'P') :
    IsPlainTitle title := by
  have hnone : ∀ {c : Char}, isWord c = false → c ∉ title := by
    intro c hc hmem
    rw [h.2 c hmem] at hc
    cases hc
  have hblank : ∀ c ∈ title, isBlank c = false := fun c hc ↦ isBlank_of_word (h.2 c hc)
  refine ⟨h.1, hnone (by decide), hnone (by decide), ?_, fun c hc ↦ ?_, ?_, fun c hc ↦ ?_⟩
  · exact trim_eq_self (fun c hc ↦ hblank c (List.mem_of_mem_head? hc))
      (fun c hc ↦ hblank c (List.mem_of_getLast? hc))
  · have hmem := List.mem_of_mem_head? hc
    constructor <;> rintro rfl <;> exact hnone (by decide) hmem
  · rintro ⟨_, _, _, _, -, -, -, rfl⟩
    exact hhead rfl
  · rintro rfl
    exact hnone (by decide) (List.mem_of_getLast? hc)

theorem IsPlainTitle.head?_eq (h : IsPlainTitle title) :
    ∀ c ∈ title.head?, isBlank c = false ∧ c ≠ '#' ∧ c ≠ '*' := by
  intro c hc
  refine ⟨?_, h.head c hc⟩
  rw [← h.trimmed] at hc
  exact head?_stripWhile isBlank title c hc

theorem IsPlainTitle.getLast?_eq (h : IsPlainTitle title) :
    ∀ c ∈ title.getLast?, isBlank c = false ∧ c ≠ '*' := by
  intro c hc
  refine ⟨?_, h.last c hc⟩
  rw [← h.trimmed] at hc
  exact getLast?_stripWhile isBlank title c hc

/-- A plain title loses nothing at its ends. -/
theorem IsPlainTitle.polished_eq (h : IsPlainTitle title) : polished title = title := by
  have hstars : dropEndWhile (· == '*') title = title :=
    dropEndWhile_eq_self fun c hc ↦ beq_eq_false_iff_ne.mpr (h.last c hc)
  rw [polished, h.trimmed, hstars, h.trimmed]

/-- The heading that may be left in front of a title. -/
def leftHeading : Pattern :=
  all [literal "Plan", blanks, digits, blanks, char ':']

/-- What follows that heading. -/
def afterHeading : Pattern :=
  .seq blanks emphasis

theorem titleMarkup_eq : titleMarkup = .seq (optional (.seq (oneOrMore (char '#')) blanks))
    (.seq emphasis (.seq blanks (.seq (optional leftHeading) afterHeading))) := rfl

variable {rest : Continue} {marks : Marks} {text : List Char}

/-- No emphasis is matched where no asterisk stands. -/
theorem run_emphasis (h : ∀ c ∈ text.head?, c ≠ '*') :
    emphasis.run rest text.length text = rest text.length text := by
  refine run_optional_of_none ?_
  exact run_char_of_ne h

/-- Markup is passed over where neither a mark nor a blank stands. -/
theorem run_titleMarkup (hhead : ∀ c ∈ text.head?, isBlank c = false ∧ c ≠ '#' ∧ c ≠ '*')
    (h : (Pattern.seq (optional leftHeading) afterHeading).run rest text.length text = some marks) :
    titleMarkup.run rest text.length text = some marks := by
  have hmark : ∀ rest : Continue,
      (Pattern.seq (oneOrMore (char '#')) blanks).run rest text.length text = none := fun rest ↦
    run_char_of_ne fun c hc ↦ (hhead c hc).2.1
  rw [titleMarkup_eq, run, run_optional_of_none (hmark _), run,
    run_emphasis fun c hc ↦ (hhead c hc).2.2]
  exact run_many_one isBlanks_nil (fun c hc ↦ (hhead c hc).1) h

/-- Blanks are passed over up to a title. -/
theorem run_afterHeading {gap : List Char} (hgap : IsBlanks gap)
    (hhead : ∀ c ∈ text.head?, isBlank c = false ∧ c ≠ '#' ∧ c ≠ '*')
    (h : rest text.length text = some marks) :
    afterHeading.run rest (gap ++ text).length (gap ++ text) = some marks := by
  refine run_many_one hgap (fun c hc ↦ (hhead c hc).1) ?_
  rw [run_emphasis fun c hc ↦ (hhead c hc).2.2]
  exact h

/-- No heading is matched where none stands. -/
theorem run_leftHeading_eq_none (h : ¬ BeginsHeading text) :
    leftHeading.run rest text.length text = none := by
  refine Option.eq_none_iff_forall_ne_some.mpr fun marks hrun ↦ h ?_
  obtain ⟨taken, after, _, _, rfl, htakes, -⟩ := exists_takes_of_run _ hrun
  obtain ⟨_, _, _, _, rfl, rfl, hword, htakes⟩ := takes_all_cons_iff.mp htakes
  obtain ⟨gap, _, _, _, rfl, rfl, hgap, htakes⟩ := takes_all_cons_iff.mp htakes
  obtain ⟨ds, _, _, _, rfl, rfl, hds, htakes⟩ := takes_all_cons_iff.mp htakes
  obtain ⟨gap', colon, _, _, rfl, rfl, hgap', hcolon⟩ := takes_all_cons_iff.mp htakes
  obtain ⟨rfl, rfl⟩ := takes_literal_iff.mp hword
  obtain ⟨rfl, rfl⟩ := takes_char_iff.mp hcolon
  exact ⟨gap, ds, gap', after, (takes_blanks_iff.mp hgap).1, (takes_digits_iff.mp hds).1,
    (takes_blanks_iff.mp hgap').1, by simp⟩

/-- The characters after a run of digits: a colon, with or without blanks before it. -/
theorem isDigit_head_colon {gap : List Char} (hgap : IsBlanks gap) (text : List Char) :
    ∀ c ∈ (gap ++ ':' :: text).head?, isDigit c = false := by
  rcases gap with _ | ⟨c, gap⟩
  · rintro c ⟨⟩
    decide
  · rintro _ ⟨⟩
    exact isDigit_of_blank (hgap c List.mem_cons_self)

/-- The word, blanks and a number are matched where they stand. -/
theorem run_numbered {gap number : List Char} (hgap : IsBlanks gap)
    (hnumber : number ≠ [] ∧ IsDigits number) (hend : ∀ c ∈ text.head?, isDigit c = false)
    (h : rest text.length text = some marks) :
    (literal "Plan").run (blanks.run (digits.run rest))
      ("Plan".toList ++ (gap ++ (number ++ text))).length
      ("Plan".toList ++ (gap ++ (number ++ text))) = some marks := by
  obtain ⟨d, ds, rfl⟩ := List.exists_cons_of_ne_nil hnumber.1
  refine (run_literal "Plan" _).trans (run_many_one hgap ?_ (run_many_one hnumber.2 hend h))
  rintro c ⟨⟩
  exact isBlank_of_digit (hnumber.2 d List.mem_cons_self)

/-- A heading is matched where one stands. -/
theorem run_leftHeading {gap number gap' : List Char} (hgap : IsBlanks gap)
    (hnumber : number ≠ [] ∧ IsDigits number) (hgap' : IsBlanks gap')
    (h : rest text.length text = some marks) :
    leftHeading.run rest ("Plan".toList ++ (gap ++ (number ++ (gap' ++ ':' :: text)))).length
      ("Plan".toList ++ (gap ++ (number ++ (gap' ++ ':' :: text)))) = some marks := by
  refine run_numbered hgap hnumber (isDigit_head_colon hgap' text) ?_
  refine run_many_one hgap' ?_ ((run_char_cons ':' text).trans h)
  rintro c ⟨⟩
  decide

theorem unmarked_eq {front : List Char}
    (h : titleMarkup.run (fun left _ ↦ some [(endMark, left)]) (front ++ text).length
      (front ++ text) = some [(endMark, text.length)]) : unmarked (front ++ text) = text := by
  rw [unmarked, stopAtStart, h]
  simp

/-- A plain title comes out as it is, without blanks in front of it. -/
theorem cleanTitle_plain (h : IsPlainTitle title) {gap : List Char} (hgap : IsBlanks gap) :
    cleanTitle (gap ++ title) = title := by
  have hunmarked : unmarked ([] ++ title) = title := by
    refine unmarked_eq (run_titleMarkup h.head?_eq ?_)
    rw [List.nil_append, run, run_optional_of_none (run_leftHeading_eq_none h.heading)]
    exact run_afterHeading isBlanks_nil h.head?_eq rfl
  rw [List.nil_append] at hunmarked
  have htrim : trim (gap ++ title) = title := by
    rw [trim, stripWhile_append hgap]
    exact h.trimmed
  rw [cleanTitle_eq, htrim, hunmarked, h.polished_eq, if_neg (by simpa using h.ne_nil)]

/-- The heading of a unit is markup, whatever title follows it. -/
theorem unmarked_headed {gap number gap' gap'' : List Char} (hgap : IsBlanks gap)
    (hnumber : number ≠ [] ∧ IsDigits number) (hgap' : IsBlanks gap') (hgap'' : IsBlanks gap'')
    (hhead : ∀ c ∈ title.head?, isBlank c = false ∧ c ≠ '#' ∧ c ≠ '*') :
    unmarked ("Plan".toList ++ (gap ++ (number ++ (gap' ++ ':' :: gap''))) ++ title) = title := by
  have hfront : "Plan".toList ++ (gap ++ (number ++ (gap' ++ ':' :: gap''))) ++ title =
      "Plan".toList ++ (gap ++ (number ++ (gap' ++ ':' :: (gap'' ++ title)))) := by simp
  refine unmarked_eq (run_titleMarkup ?_ ?_)
  · rintro c ⟨⟩
    decide
  · rw [run, hfront]
    exact run_optional_of_some (run_leftHeading hgap hnumber hgap'
      (run_afterHeading hgap'' hhead rfl))

/-- A plain title comes out as it is, without the heading of its unit. -/
theorem cleanTitle_headed (h : IsPlainTitle title) {gap number gap' gap'' : List Char}
    (hgap : IsBlanks gap) (hnumber : number ≠ [] ∧ IsDigits number) (hgap' : IsBlanks gap')
    (hgap'' : IsBlanks gap'') :
    cleanTitle ("Plan".toList ++ (gap ++ (number ++ (gap' ++ ':' :: gap''))) ++ title) = title := by
  have hunmarked := unmarked_headed hgap hnumber hgap' hgap'' h.head?_eq
  have htrim : trim ("Plan".toList ++ (gap ++ (number ++ (gap' ++ ':' :: gap''))) ++ title) =
      "Plan".toList ++ (gap ++ (number ++ (gap' ++ ':' :: gap''))) ++ title := by
    refine trim_eq_self ?_ fun c hc ↦ ?_
    · rintro c ⟨⟩
      decide
    · rw [List.getLast?_append_of_ne_nil _ h.ne_nil] at hc
      exact (h.getLast?_eq c hc).1
  rw [cleanTitle_eq, htrim, hunmarked, h.polished_eq, if_neg (by simpa using h.ne_nil)]

/-- A heading that stands alone comes out as it is: nothing would be left without it. -/
theorem cleanTitle_heading {gap number gap' : List Char} (hgap : IsBlanks gap)
    (hnumber : number ≠ [] ∧ IsDigits number) (hgap' : IsBlanks gap') :
    cleanTitle ("Plan".toList ++ (gap ++ (number ++ (gap' ++ [':'])))) =
      "Plan".toList ++ (gap ++ (number ++ (gap' ++ [':']))) := by
  have hunmarked := @unmarked_headed [] _ _ _ _ hgap hnumber hgap' isBlanks_nil (by simp)
  rw [List.append_nil] at hunmarked
  have hends : ∀ {drop : Char → Bool}, drop 'P' = false → drop ':' = false →
      stripWhile drop ("Plan".toList ++ (gap ++ (number ++ (gap' ++ [':'])))) =
        "Plan".toList ++ (gap ++ (number ++ (gap' ++ [':']))) := by
    intro drop hfirst hlast
    refine stripWhile_eq_self ?_ fun c hc ↦ ?_
    · rintro c ⟨⟩
      exact hfirst
    · simp only [← List.append_assoc, List.getLast?_concat] at hc
      obtain rfl := Option.some.inj hc
      exact hlast
  have htrim := hends (show isBlank 'P' = false by decide) (show isBlank ':' = false by decide)
  rw [cleanTitle_eq, trim, htrim, hunmarked, if_pos (by decide), hends (by decide) (by decide)]
  exact htrim

end Plain

end Errand.Plan
