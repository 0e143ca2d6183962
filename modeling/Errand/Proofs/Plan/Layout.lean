import Errand.Proofs.Plan.Shape
import Errand.Proofs.Text.Classes

/-!
# Where a recognised unit stops to read

`Written` is a unit as it is written, with a number, a step id, and any blanks between its parts.
These lemmas compare it with the parts of a unit that was recognised in a text around it. Heading
and markup never go into a plain title (`exists_over_opening`). If a line ends between the title
and the step id, the recognised title ends there too, and unless the recognised unit has found its
bracket before, the step ids are the same and so is all that follows (`assigned_of_text`).
-/

set_option autoImplicit false

namespace Errand.Plan

open Text Text.Pattern

/-- A unit as it is written. -/
structure Written where
  /-- Blanks before the number. -/
  beforeNumber : List Char
  /-- The number. -/
  number : List Char
  /-- Blanks before the colon. -/
  beforeColon : List Char
  /-- Blanks before the title. -/
  beforeTitle : List Char
  /-- The title. -/
  title : List Char
  /-- Blanks before the step id. -/
  beforeId : List Char
  /-- The digits of the step id. -/
  index : List Char
  /-- Blanks before the equals sign. -/
  beforeSign : List Char
  /-- Blanks after the equals sign. -/
  afterSign : List Char
  /-- The operation. -/
  operation : List Char
  /-- Blanks before the opening bracket. -/
  beforeBracket : List Char
  /-- Blanks after the opening bracket. -/
  beforeBlob : List Char
  /-- The parameters. -/
  blob : List Char
  /-- Blanks before the closing bracket. -/
  afterBlob : List Char

namespace Written

variable (w : Written) (after : List Char)

/-- The marker that a unit begins with. -/
def marker : List Char :=
  "Plan".toList ++ (w.beforeNumber ++ (w.number ++ (w.beforeColon ++ [':'])))

/-- The text up to the title. -/
def opening : List Char :=
  w.marker ++ w.beforeTitle

/-- The text from the step id to the opening bracket. -/
def assignment : List Char :=
  '#' :: 'E' :: (w.index ++ (w.beforeSign ++ '=' ::
    (w.afterSign ++ (w.operation ++ w.beforeBracket))))

/-- The text from the parameters on. -/
def fromBlob : List Char :=
  w.blob ++ (w.afterBlob ++ ']' :: after)

/-- The text from the step id on. -/
def fromId : List Char :=
  w.assignment ++ '[' :: (w.beforeBlob ++ w.fromBlob after)

/-- The text from the title on. -/
def fromTitle : List Char :=
  w.title ++ (w.beforeId ++ w.fromId after)

/-- The whole text, and what follows it. -/
def text : List Char :=
  w.opening ++ w.fromTitle after

theorem fromId_append : w.fromId [] ++ after = w.fromId after := by
  simp [fromId, fromBlob]

/-- Whether these are the parts of a unit, apart from what its parameters are. -/
structure IsWritten : Prop where
  beforeNumber : IsBlanks w.beforeNumber
  number : w.number ≠ [] ∧ IsDigits w.number
  beforeColon : IsBlanks w.beforeColon
  beforeTitle : IsBlanks w.beforeTitle
  title : '[' ∉ w.title
  beforeId : IsBlanks w.beforeId
  index : w.index ≠ [] ∧ IsDigits w.index
  beforeSign : IsBlanks w.beforeSign
  afterSign : IsBlanks w.afterSign
  operation : IsName w.operation
  beforeBracket : IsBlanks w.beforeBracket
  beforeBlob : IsBlanks w.beforeBlob
  blob : w.blob.head? = some '{'
  afterBlob : IsBlanks w.afterBlob

theorem fromTitle_eq : w.fromTitle after =
    (w.title ++ (w.beforeId ++ w.assignment)) ++ '[' :: (w.beforeBlob ++ w.fromBlob after) := by
  simp [fromTitle, fromId]

theorem text_append : w.text [] ++ after = w.text after := by
  rw [text, fromTitle, List.append_assoc, List.append_assoc, List.append_assoc, fromId_append]
  rfl

/-- A unit on two lines, with single blanks between its parts. -/
def onTwoLines (number title index operation blob : List Char) : Written where
  beforeNumber := [' ']
  number := number
  beforeColon := []
  beforeTitle := [' ']
  title := title
  beforeId := ['\n']
  index := index
  beforeSign := [' ']
  afterSign := [' ']
  operation := operation
  beforeBracket := []
  beforeBlob := []
  blob := blob
  afterBlob := []

theorem isWritten_onTwoLines {number title index operation blob : List Char}
    (hnumber : number ≠ [] ∧ IsDigits number) (htitle : '[' ∉ title)
    (hindex : index ≠ [] ∧ IsDigits index) (hoperation : IsName operation)
    (hblob : blob.head? = some '{') :
    (onTwoLines number title index operation blob).IsWritten where
  beforeNumber := isBlanks_space
  number := hnumber
  beforeColon := isBlanks_nil
  beforeTitle := isBlanks_space
  title := htitle
  beforeId := isBlanks_line
  index := hindex
  beforeSign := isBlanks_space
  afterSign := isBlanks_space
  operation := hoperation
  beforeBracket := isBlanks_nil
  beforeBlob := isBlanks_nil
  blob := hblob
  afterBlob := isBlanks_nil

end Written

/-- Whether a title begins with a character of its own, and not with a mark or a bare heading. -/
def BeginsPlainly (title : List Char) : Prop :=
  ∃ c tail, title = c :: tail ∧ isBlank c = false ∧ c ≠ '*' ∧ ¬ "Plan:".toList <+: title

/-! ### Characters of the parts -/

section Chars

variable {c : Char} {text : List Char}

theorem IsBlanks.notMem (h : IsBlanks text) (hc : isBlank c = false) : c ∉ text :=
  fun hmem ↦ by simp [h c hmem] at hc

theorem IsDigits.notMem (h : IsDigits text) (hc : isDigit c = false) : c ∉ text :=
  fun hmem ↦ by simp [h c hmem] at hc

theorem IsName.notMem (h : IsName text) (hc : isWord c = false) : c ∉ text :=
  fun hmem ↦ by simp [h.2 c hmem] at hc

theorem IsName.head_eq (h : IsName text) (rest : List Char) :
    ∀ d ∈ (text ++ rest).head?, isBlank d = false := by
  obtain ⟨d, tail, rfl⟩ := List.exists_cons_of_ne_nil h.1
  rintro _ ⟨⟩
  exact isBlank_of_word (h.2 d List.mem_cons_self)

theorem IsEquals.notMem (h : IsEquals text) (hc : isBlank c = false) (hne : c ≠ '=') :
    c ∉ text := by
  obtain ⟨gap, sign, gap', hgap, hsign, hgap', rfl⟩ := h
  rcases hsign with rfl | rfl <;> simp [hgap.notMem hc, hgap'.notMem hc, hne]

theorem IsOptional.notMem {word : String} (h : IsOptional word text) (hc : c ∉ word.toList) :
    c ∉ text := by
  rcases h with rfl | rfl
  · exact List.not_mem_nil
  · exact hc

end Chars

theorem Written.IsWritten.notMem_opening {w : Written} (hw : w.IsWritten) : '[' ∉ w.opening := by
  simp [Written.opening, Written.marker,
    hw.beforeNumber.notMem (show isBlank '[' = false by decide),
    hw.number.2.notMem (show isDigit '[' = false by decide),
    hw.beforeColon.notMem (show isBlank '[' = false by decide),
    hw.beforeTitle.notMem (show isBlank '[' = false by decide)]

/-! ### Heading and markup -/

/-- A unit has a heading only where its text begins like one. -/
theorem heading_eq_nil_of_head {u : Parts} (hu : u.IsUnit) {after text : List Char} {c : Char}
    (h : u.text after = c :: text) (hmark : c ≠ '#') (hcapital : c ≠ 'P') : u.heading = [] := by
  rcases hu.heading with hnone | ⟨gap, gap', ds, colon, -, -, -, -, hmarked⟩ |
    ⟨gap, ds, -, -, hplain⟩
  · exact hnone
  · rw [Parts.text, hmarked] at h
    exact absurd (List.cons.inj h).1 hmark.symm
  · rw [Parts.text, hplain] at h
    exact absurd (List.cons.inj h).1 hcapital.symm

/-- The only colon of a heading is its last character. -/
theorem eq_nil_of_heading_colon {heading front back : List Char}
    (h : IsMarkedHeading heading ∨ IsPlainHeading heading) (heq : heading = front ++ ':' :: back) :
    back = [] := by
  have hblank : ∀ {gap}, IsBlanks gap → ':' ∉ gap := fun hgap ↦ hgap.notMem (by decide)
  have hdigit : ∀ {ds}, IsDigits ds → ':' ∉ ds := fun hds ↦ hds.notMem (by decide)
  rcases h with ⟨gap, gap', ds, colon, hgap, hgap', hds, hcolon, rfl⟩ | ⟨gap, ds, hgap, hds, rfl⟩
  · have hfront : ':' ∉ '#' :: '#' :: gap ++ "Plan".toList ++ gap' ++ ds := by
      simp [hblank hgap, hblank hgap', hdigit hds]
    rcases hcolon with rfl | rfl
    · rw [List.append_nil] at heq
      rw [heq] at hfront
      simp at hfront
    · exact ((List.append_cons_inj_of_notMem hfront List.not_mem_nil).mp heq).2.2.symm
  · have hfront : ':' ∉ "Plan".toList ++ gap ++ ds := by simp [hblank hgap, hdigit hds]
    exact ((List.append_cons_inj_of_notMem hfront List.not_mem_nil).mp heq).2.2.symm

/-- The only colon of markup follows the word. -/
theorem exists_word_of_markup_colon {markup front back : List Char} (h : IsMarkup markup)
    (heq : markup = front ++ ':' :: back) : ∃ gap, front = gap ++ "Plan".toList := by
  obtain ⟨gap, opening, word, closing, gap', hgap, hopening, hword, hclosing, hgap', rfl⟩ := h
  have hbefore : ':' ∉ gap ++ opening := by
    simp [hgap.notMem (show isBlank ':' = false by decide), hopening.notMem (by decide : ':' ∉ _)]
  have hafter : ':' ∉ closing ++ gap' := by
    simp [hgap'.notMem (show isBlank ':' = false by decide), hclosing.notMem (by decide : ':' ∉ _)]
  rcases hword with rfl | rfl
  · have hmem : ':' ∈ gap ++ opening ++ [] ++ closing ++ gap' := by
      rw [heq]
      simp
    simp only [List.append_nil, List.append_assoc] at hmem hbefore hafter
    rw [← List.append_assoc, List.mem_append] at hmem
    exact absurd hmem (not_or.mpr ⟨hbefore, hafter⟩)
  · have hword : (gap ++ opening ++ "Plan".toList) ++ ':' :: (closing ++ gap') =
        front ++ ':' :: back := by
      rw [← heq]
      simp
    have hfront : ':' ∉ gap ++ opening ++ "Plan".toList := by
      rw [List.mem_append]
      exact not_or.mpr ⟨hbefore, by decide⟩
    exact ⟨gap ++ opening, ((List.append_cons_inj_of_notMem hfront hafter).mp hword).1.symm⟩

/-- Markup goes on after blanks with an asterisk or the word only. -/
theorem word_prefix_of_markup {gap text : List Char} {c : Char} (hgap : IsBlanks gap)
    (h : IsMarkup (gap ++ c :: text)) (hc : isBlank c = false) (hstar : c ≠ '*') :
    "Plan:".toList <+: c :: text := by
  obtain ⟨front, opening, word, closing, back, hfront, hopening, hword, hclosing, hback, heq⟩ := h
  have hcut : ∀ {d : Char} {rest : List Char}, isBlank d = false →
      gap ++ c :: text = front ++ d :: rest → c :: text = d :: rest := fun hd hrest ↦
    (append_inj_of_class hgap (by simpa using hc) hfront (by simpa using hd) hrest).2
  rcases hopening with rfl | rfl
  · rcases hword with rfl | rfl
    · rcases hclosing with rfl | rfl
      · have hmem : c ∈ front ++ back := by
          have hrest : gap ++ c :: text = front ++ back := by simpa using heq
          rw [← hrest]
          simp
        have hblank : isBlank c := (List.mem_append.mp hmem).elim (hfront c) (hback c)
        simp [hblank] at hc
      · exact absurd (List.cons.inj (hcut (by decide) (by simpa using heq))).1 hstar
    · rw [hcut (d := 'P') (by decide) (heq.trans (by simp; rfl))]
      exact ⟨closing ++ back, by simp⟩
  · exact absurd (List.cons.inj (hcut (by decide) (by simpa using heq))).1 hstar

/-- Heading and markup together end before a title that begins plainly. -/
theorem exists_over_opening {u : Parts} (hu : u.IsUnit) {w : Written} (hw : w.IsWritten)
    {before rest rest' : List Char} (hplain : BeginsPlainly (w.title ++ rest'))
    (h : u.heading ++ (u.markup ++ rest) = before ++ (w.opening ++ (w.title ++ rest'))) :
    ∃ extra, rest = extra ++ (w.title ++ rest') ∧
      u.heading ++ (u.markup ++ extra) = before ++ w.opening := by
  obtain ⟨c, tail, htitle, hblank, hstar, hword⟩ := hplain
  rw [← List.append_assoc, ← List.append_assoc] at h
  rcases List.append_eq_append_iff.mp h with ⟨extra, hover, hrest⟩ | ⟨beyond, hbeyond, hrest⟩
  · exact ⟨extra, hrest, by rw [hover, List.append_assoc]⟩
  rcases beyond with _ | ⟨d, beyond⟩
  · exact ⟨[], by simpa using hrest.symm, by simpa using hbeyond⟩
  -- The first character of the title would lie in the markup, after the colon of the heading.
  have hprefix : d :: beyond <+: w.title ++ rest' := ⟨rest, hrest.symm⟩
  obtain rfl : d = c := by
    rw [htitle] at hrest
    exact (List.cons.inj hrest).1.symm
  have hsplit : u.heading ++ u.markup =
      (before ++ ("Plan".toList ++ w.beforeNumber) ++ (w.number ++ w.beforeColon)) ++
        ':' :: (w.beforeTitle ++ d :: beyond) := by
    rw [hbeyond]
    simp [Written.opening, Written.marker]
  rcases List.append_eq_append_iff.mp hsplit with
    ⟨front, hdigits, hmarkup⟩ | ⟨front, hheading, hmarkup⟩
  · obtain ⟨gap, rfl⟩ := exists_word_of_markup_colon hu.markup hmarkup
    have hlast : 'n' ∈ w.number ++ w.beforeColon := by
      have hne : w.number ++ w.beforeColon ≠ [] := by simp [hw.number.1]
      have hend : (w.number ++ w.beforeColon).getLast? = some 'n' := by
        rw [← List.getLast?_append_of_ne_nil (before ++ ("Plan".toList ++ w.beforeNumber)) hne,
          hdigits]
        simp
      exact List.mem_of_getLast? hend
    rcases List.mem_append.mp hlast with hmem | hmem
    · exact absurd hmem (hw.number.2.notMem (by decide))
    · exact absurd hmem (hw.beforeColon.notMem (by decide))
  · rcases front with _ | ⟨e, front⟩
    · obtain ⟨gap, hgap⟩ : ∃ gap, [] = gap ++ "Plan".toList :=
        exists_word_of_markup_colon hu.markup hmarkup.symm
      simp at hgap
    · obtain ⟨rfl, htail⟩ := List.cons.inj hmarkup
      have hkind : IsMarkedHeading u.heading ∨ IsPlainHeading u.heading :=
        hu.heading.resolve_left (by simp [hheading])
      obtain rfl := eq_nil_of_heading_colon hkind hheading
      have hform : IsMarkup (w.beforeTitle ++ d :: beyond) := by
        rw [htail]
        exact hu.markup
      exact absurd ((word_prefix_of_markup hw.beforeTitle hform hblank hstar).trans hprefix) hword

/-- Markup ends before a text that begins plainly, if only blanks stand between the two. -/
theorem exists_over_markup {markup gap text rest : List Char} (hmarkup : IsMarkup markup)
    (hgap : IsBlanks gap) (hplain : BeginsPlainly text) (h : markup ++ rest = gap ++ text) :
    ∃ extra, rest = extra ++ text ∧ markup ++ extra = gap := by
  obtain ⟨c, tail, htext, hblank, hstar, hword⟩ := hplain
  rcases List.append_eq_append_iff.mp h with ⟨extra, hextra, hrest⟩ | ⟨beyond, hbeyond, hrest⟩
  · exact ⟨extra, hrest, hextra.symm⟩
  rcases beyond with _ | ⟨d, beyond⟩
  · exact ⟨[], by simpa using hrest.symm, by simpa using hbeyond⟩
  · obtain rfl : d = c := by
      rw [htext] at hrest
      exact (List.cons.inj hrest).1.symm
    rw [hbeyond] at hmarkup
    exact absurd ((word_prefix_of_markup hgap hmarkup hblank hstar).trans ⟨rest, hrest.symm⟩) hword

/-- Whether a title begins plainly does not depend on what follows it. -/
theorem BeginsPlainly.append {title rest : List Char} (h : BeginsPlainly title)
    (hrest : ∀ c ∈ rest.head?, isBlank c ∨ c = '#') : BeginsPlainly (title ++ rest) := by
  obtain ⟨c, tail, rfl, hblank, hstar, hword⟩ := h
  refine ⟨c, tail ++ rest, rfl, hblank, hstar, fun hprefix ↦ hword ?_⟩
  rcases List.prefix_or_prefix_of_prefix hprefix (List.prefix_append (c :: tail) rest) with
    hinside | ⟨back, hback⟩
  · exact hinside
  · rcases back with _ | ⟨d, back⟩
    · have hwhole : "Plan:".toList = c :: tail := hback.symm.trans (List.append_nil _)
      exact ⟨[], by rw [List.append_nil, hwhole]⟩
    · rw [← hback] at hprefix
      obtain ⟨more, hmore⟩ := (List.prefix_append_right_inj (c :: tail)).mp hprefix
      have hd : d ∈ "Plan:".toList := by
        rw [← hback]
        simp
      have hhead : isBlank d ∨ d = '#' := hrest d (by simp [← hmore])
      have hall : "Plan:".toList.all (fun e ↦ !isBlank e && e != '#') = true := by decide
      have hplain := List.all_eq_true.mp hall d hd
      simp only [Bool.and_eq_true, Bool.not_eq_true', bne_iff_ne] at hplain
      rcases hhead with hblank' | hmark
      · exact absurd hblank' (by simp [hplain.1])
      · exact absurd hmark hplain.2

/-- A blank or the step id follows a title. -/
theorem Written.IsWritten.head_beforeId {w : Written} (hw : w.IsWritten) (after : List Char) :
    ∀ c ∈ (w.beforeId ++ w.fromId after).head?, isBlank c ∨ c = '#' := by
  have hblanks := hw.beforeId
  rcases hgap : w.beforeId with _ | ⟨d, gap⟩
  · rintro c ⟨⟩
    exact .inr rfl
  · rintro c ⟨⟩
    exact .inl (hblanks d (by simp [hgap]))

/-! ### Title and step id -/

section Assigned

variable {u : Parts} {w : Written} {extra after rest : List Char}

theorem notMem_assignment (hw : w.IsWritten) : '[' ∉ w.assignment := by
  simp [Written.assignment, hw.index.2.notMem (show isDigit '[' = false by decide),
    hw.beforeSign.notMem (show isBlank '[' = false by decide),
    hw.afterSign.notMem (show isBlank '[' = false by decide),
    hw.operation.notMem (show isWord '[' = false by decide +kernel),
    hw.beforeBracket.notMem (show isBlank '[' = false by decide)]

/-- Digits, equals sign and operation are recognised as they are written. -/
theorem index_of_assigned {ds equals operation gap : List Char} (hw : w.IsWritten)
    (hds : IsDigits ds) (hequals : IsEquals equals) (hoperation : IsName operation)
    (hgap : IsBlanks gap)
    (h : ds ++ (equals ++ (operation ++ gap)) =
      w.index ++ (w.beforeSign ++ '=' :: (w.afterSign ++ (w.operation ++ w.beforeBracket)))) :
    ds = w.index ∧ operation = w.operation := by
  obtain ⟨before, sign, between, hbefore, hsign, hbetween, rfl⟩ := hequals
  have hds' : '=' ∉ ds := hds.notMem (by decide)
  have hbefore' : '=' ∉ before := hbefore.notMem (by decide)
  have hrest : '=' ∉ between ++ (operation ++ gap) := by
    simp [hbetween.notMem (show isBlank '=' = false by decide),
      hoperation.notMem (show isWord '=' = false by decide +kernel),
      hgap.notMem (show isBlank '=' = false by decide)]
  rcases hsign with rfl | rfl
  · have hmem : '=' ∈ ds ++ (before ++ [] ++ between ++ (operation ++ gap)) := by
      rw [h]
      simp
    rw [List.append_nil, List.append_assoc] at hmem
    simp only [List.mem_append (s := ds), List.mem_append (s := before), hds', hbefore', hrest,
      or_self] at hmem
  · have hsplit : (ds ++ before) ++ '=' :: (between ++ (operation ++ gap)) =
        (w.index ++ w.beforeSign) ++ '=' ::
          (w.afterSign ++ (w.operation ++ w.beforeBracket)) := by simpa using h
    obtain ⟨hfront, -, hback⟩ :=
      (List.append_cons_inj_of_notMem (by simp [hds', hbefore']) hrest).mp hsplit
    have hblank : ∀ {blanks : List Char}, IsBlanks blanks →
        ∀ c ∈ blanks.head?, isDigit c = false := fun hblanks c hc ↦
      isDigit_of_blank (hblanks c (List.mem_of_mem_head? hc))
    have hnoWord : ∀ {blanks : List Char}, IsBlanks blanks →
        ∀ c ∈ blanks.head?, isWord c = false := fun hblanks c hc ↦
      isWord_of_blank (hblanks c (List.mem_of_mem_head? hc))
    refine
      ⟨(append_inj_of_class hds (hblank hbefore) hw.index.2 (hblank hw.beforeSign) hfront).1, ?_⟩
    have hnamed := (append_inj_of_class hbetween (hoperation.head_eq gap) hw.afterSign
      (hw.operation.head_eq w.beforeBracket) hback).2
    exact (append_inj_of_class hoperation.2 (hnoWord hgap) hw.operation.2
      (hnoWord hw.beforeBracket) hnamed).1

/-- The step id is recognised where it is written. -/
theorem id_of_assigned (hu : u.IsUnit) (hw : w.IsWritten)
    (h : u.breaks ++ (u.id ++ (u.equals ++ (u.operation ++ u.beforeBracket))) =
      rest ++ w.assignment) :
    u.breaks = rest ∧ u.id = '#' :: 'E' :: w.index ∧ u.operation = w.operation := by
  have hbreaks : '#' ∉ u.breaks := fun hmem ↦
    (hu.breaks _ hmem).elim (fun hblank ↦ absurd hblank (by decide)) (by decide)
  have hback : '#' ∉ u.equals ++ (u.operation ++ u.beforeBracket) := by
    simp [hu.equals.notMem (show isBlank '#' = false by decide) (by decide),
      hu.operation.notMem (show isWord '#' = false by decide +kernel),
      hu.beforeBracket.notMem (show isBlank '#' = false by decide)]
  rcases hu.id with hid | ⟨ds, -, hds, hid⟩
  · have hmem : '#' ∈ rest ++ w.assignment := by simp [Written.assignment]
    rw [← h, hid, List.nil_append, List.mem_append] at hmem
    exact absurd hmem (not_or.mpr ⟨hbreaks, hback⟩)
  · rw [hid] at h
    have hsharp : '#' ∉ 'E' :: ds ++ (u.equals ++ (u.operation ++ u.beforeBracket)) := by
      rw [List.mem_append, List.mem_cons]
      exact not_or.mpr ⟨not_or.mpr ⟨by decide, hds.notMem (by decide)⟩, hback⟩
    obtain ⟨hrest, -, htail⟩ := (List.append_cons_inj_of_notMem hbreaks hsharp).mp h
    obtain ⟨rfl, hoperation⟩ := index_of_assigned hw hds hu.equals hu.operation hu.beforeBracket
      (List.cons.inj htail).2
    exact ⟨hrest, hid, hoperation⟩

/-- The text of a unit between its title and its bracket. -/
def Parts.middle (u : Parts) : List Char :=
  u.breaks ++ (u.id ++ (u.equals ++ (u.operation ++ u.beforeBracket)))

theorem Parts.fromTitle_eq (u : Parts) (after : List Char) :
    u.fromTitle after = u.title ++ (u.middle ++ '[' :: (u.beforeBlob ++ u.fromBlob after)) := by
  simp [fromTitle, middle, fromId, fromOperation]

/-- The text between the title and the bracket of a unit has few kinds of characters. -/
theorem Parts.IsUnit.notMem_middle (hu : u.IsUnit) {c : Char} (hblank : isBlank c = false)
    (hdigit : isDigit c = false) (hword : isWord c = false) (hmarks : c ∉ "*#E=".toList) :
    c ∉ u.middle := by
  obtain ⟨hstar, hsharp, hletter, hsign⟩ : c ≠ '*' ∧ c ≠ '#' ∧ c ≠ 'E' ∧ c ≠ '=' := by
    simpa using hmarks
  have hbreaks : c ∉ u.breaks := fun hmem ↦
    (hu.breaks _ hmem).elim (fun h ↦ by simp [h] at hblank) hstar
  have hid : c ∉ u.id := by
    rcases hu.id with hid | ⟨ds, -, hds, hid⟩
    · simp [hid]
    · simp [hid, hds.notMem hdigit, hsharp, hletter]
  simp [Parts.middle, hbreaks, hid, hu.equals.notMem hblank hsign, hu.operation.notMem hword,
    hu.beforeBracket.notMem hblank]

/-- What follows the title up to the bracket is recognised as it is written. -/
theorem assigned_of_rest {text text' : List Char} (hu : u.IsUnit) (hw : w.IsWritten)
    (hrest : '[' ∉ rest)
    (h : u.breaks ++ (u.id ++ (u.equals ++ (u.operation ++ (u.beforeBracket ++ '[' :: text)))) =
      rest ++ (w.assignment ++ '[' :: text')) :
    u.breaks = rest ∧ u.id = '#' :: 'E' :: w.index ∧ u.operation = w.operation ∧ text = text' := by
  have hfront : '[' ∉ rest ++ w.assignment := by
    simpa [hrest] using notMem_assignment hw
  have hmiddle :=
    hu.notMem_middle (c := '[') (by decide) (by decide) (by decide +kernel) (by decide)
  obtain ⟨hassigned, htext⟩ :=
    append_cons_inj_of_first hmiddle hfront (by simpa [Parts.middle] using h)
  obtain ⟨hbreaks, hid, hoperation⟩ := id_of_assigned hu hw hassigned
  exact ⟨hbreaks, hid, hoperation, htext⟩

/-- If a line ends in front of the step id and no bracket stands there, title and breaks that are
recognised from there on end before the step id, and all that follows is recognised as it is
written.
-/
theorem assigned_of_front {front : List Char} (hu : u.IsUnit) (hw : w.IsWritten)
    (hline : '\n' ∈ front) (hbracket : '[' ∉ front)
    (h : u.fromTitle after = front ++ w.fromId rest) :
    front = u.title ++ u.breaks ∧ u.id = '#' :: 'E' :: w.index ∧ u.operation = w.operation ∧
      u.beforeBlob ++ u.fromBlob after = w.beforeBlob ++ w.fromBlob rest := by
  obtain ⟨between, rfl, hbreaks⟩ := exists_of_mem_right hu.title hline h
  have hnone : '[' ∉ between := fun hmem ↦ hbracket (List.mem_append_right _ hmem)
  obtain ⟨rfl, hrest⟩ := assigned_of_rest hu hw hnone hbreaks
  exact ⟨rfl, hrest⟩

/-- What is recognised from a position before a unit on two lines has all of that unit from its step
id on, and its title ends with the line. -/
theorem assigned_of_text {before : List Char} (hu : u.IsUnit) (hw : w.IsWritten)
    (hplain : BeginsPlainly w.title) (hline : '\n' ∈ w.title ++ w.beforeId)
    (hbracket : '[' ∉ before) (h : u.text after = before ++ w.text rest) :
    ∃ extra, u.heading ++ (u.markup ++ extra) = before ++ w.opening ∧
      extra ++ (w.title ++ w.beforeId) = u.title ++ u.breaks ∧ u.id = '#' :: 'E' :: w.index ∧
      u.operation = w.operation ∧
      u.beforeBlob ++ u.fromBlob after = w.beforeBlob ++ w.fromBlob rest := by
  obtain ⟨extra, hover, hopening⟩ :=
    exists_over_opening hu hw (hplain.append (hw.head_beforeId rest)) h
  have hextra : '[' ∉ extra := by
    have hfront : '[' ∉ before ++ w.opening := by simp [hbracket, hw.notMem_opening]
    rw [← hopening] at hfront
    simp only [List.mem_append, not_or] at hfront
    exact hfront.2.2
  have hfront : '[' ∉ extra ++ (w.title ++ w.beforeId) := by
    simp [hextra, hw.title, hw.beforeId.notMem (show isBlank '[' = false by decide)]
  exact ⟨extra, hopening,
    assigned_of_front hu hw (List.mem_append_right extra hline) hfront (by simpa using hover)⟩

/-- A title ends where it is written to end, if its last character is no mark and no blank. -/
theorem title_of_breaks {title : List Char} {c : Char} (hu : u.IsUnit)
    (hc : title.getLast? = some c) (hblank : isBlank c = false) (hstar : c ≠ '*')
    (h : extra ++ (title ++ ['\n']) = u.title ++ u.breaks) : u.title = extra ++ title := by
  have hne : title ≠ [] := by
    rintro rfl
    cases hc
  rw [← List.append_assoc] at h
  rcases List.append_eq_append_iff.mp h with ⟨more, htitle, hmore⟩ | ⟨more, htitle, hbreaks⟩
  · rcases more with _ | ⟨d, more⟩
    · simpa using htitle
    · obtain ⟨rfl, -⟩ := List.cons.inj hmore
      exact absurd (by simp [htitle]) hu.title
  · rcases List.eq_nil_or_concat more with rfl | ⟨front, d, rfl⟩
    · simpa using htitle.symm
    · obtain rfl : c = d := by
        rw [← List.getLast?_append_of_ne_nil extra hne, htitle] at hc
        simpa using hc.symm
      rcases hu.breaks c (by simp [hbreaks]) with hd | hd
      · simp [hd] at hblank
      · exact absurd hd hstar

/-- Parameters that make up a group end where they are written to end. -/
theorem blob_of_fromBlob (hu : u.IsUnit) (hw : w.IsWritten) (hblob : IsGroup 2 w.blob)
    (h : u.beforeBlob ++ u.fromBlob after = w.beforeBlob ++ w.fromBlob rest) :
    u.blob = w.blob ∧ after = rest := by
  have hbrace : ∀ {blob : List Char} (text : List Char), IsGroup 2 blob →
      ∀ c ∈ (blob ++ text).head?, isBlank c = false := by
    rintro _ text ⟨inner, rfl, -⟩ _ ⟨⟩
    decide
  obtain ⟨-, hfrom⟩ := append_inj_of_class hu.beforeBlob (hbrace _ hu.blob) hw.beforeBlob
    (hbrace _ hblob) h
  have heq : u.blob = w.blob := hu.blob.unique hblob hfrom
  rw [heq] at hfrom
  have hbracket : ∀ text : List Char, ∀ c ∈ (']' :: text).head?, isBlank c = false := by
    rintro text _ ⟨⟩
    decide
  obtain ⟨-, hafter⟩ := append_inj_of_class hu.afterBlob (hbracket after) hw.afterBlob
    (hbracket rest) (List.append_cancel_left hfrom)
  exact ⟨heq, (List.cons.inj hafter).2⟩

end Assigned

/-! ### What is written can be recognised -/

section Recognisable

variable {p q : Pattern} {first second text : List Char}

theorem exists_takes_seq (hp : ∃ marks, p.Takes first marks (second ++ text))
    (hq : ∃ marks, q.Takes second marks text) :
    ∃ marks, (Pattern.seq p q).Takes (first ++ second) marks text := by
  obtain ⟨_, hp⟩ := hp
  obtain ⟨_, hq⟩ := hq
  exact ⟨_, .seq hp hq⟩

theorem exists_takes_nothing (p : Pattern) (text : List Char) :
    ∃ marks, (optional p).Takes [] marks text :=
  ⟨[], takes_optional_iff.mpr (.inr ⟨rfl, rfl⟩)⟩

theorem exists_takes_optional (h : ∃ marks, p.Takes first marks text) :
    ∃ marks, (optional p).Takes first marks text :=
  h.imp fun _ h ↦ takes_optional_iff.mpr (.inl h)

theorem exists_takes_blanks (h : IsBlanks first) : ∃ marks, blanks.Takes first marks text :=
  ⟨[], takes_blanks_iff.mpr ⟨h, rfl⟩⟩

theorem exists_takes_char (c : Char) (text : List Char) :
    ∃ marks, (char c).Takes [c] marks text :=
  ⟨[], takes_char_iff.mpr ⟨rfl, rfl⟩⟩

theorem exists_takes_capture {i j : Nat} (h : ∃ marks, p.Takes first marks text) :
    ∃ marks, (capture i j p).Takes first marks text := by
  obtain ⟨noted, h⟩ := h
  exact ⟨_, takes_capture_iff.mpr ⟨noted, h, rfl⟩⟩

variable {w : Written} (hw : w.IsWritten) (hblob : IsGroup 2 w.blob) (after : List Char)
include hw hblob

theorem exists_takes_bracketed :
    ∃ marks, bracketed.Takes (w.beforeBracket ++ '[' :: (w.beforeBlob ++ w.fromBlob [])) marks
      after := by
  have hparameters : ∀ text, ∃ marks, parameters.Takes w.blob marks text := fun text ↦
    ⟨[], takes_parameters_iff.mpr ⟨hblob, rfl⟩⟩
  refine exists_takes_seq (exists_takes_blanks hw.beforeBracket) ?_
  refine @exists_takes_seq _ _ ['['] _ _ (exists_takes_char _ _) ?_
  refine exists_takes_seq (exists_takes_blanks hw.beforeBlob) ?_
  refine exists_takes_seq (exists_takes_capture (hparameters _)) ?_
  exact exists_takes_seq (exists_takes_blanks hw.afterBlob) (exists_takes_char ']' after)

theorem exists_takes_named : ∃ marks, named.Takes (w.fromId []) marks after := by
  have hid : ∀ text, ∃ marks, stepId.Takes ('#' :: 'E' :: w.index) marks text := fun text ↦
    ⟨[], takes_stepId_iff.mpr ⟨⟨w.index, hw.index.1, hw.index.2, rfl⟩, rfl⟩⟩
  have hname : ∀ text, ∃ marks, (oneOrMore (.one isWord)).Takes w.operation marks text :=
    fun text ↦ ⟨[], takes_oneOrMore_one_iff.mpr ⟨hw.operation.1, hw.operation.2, rfl⟩⟩
  have hnamed : ∃ marks, named.Takes (('#' :: 'E' :: w.index) ++ (w.beforeSign ++ (['='] ++
      (w.afterSign ++ (w.operation ++
        (w.beforeBracket ++ '[' :: (w.beforeBlob ++ w.fromBlob []))))))) marks after := by
    refine exists_takes_seq (exists_takes_optional (exists_takes_capture (hid _))) ?_
    refine exists_takes_seq (exists_takes_blanks hw.beforeSign) ?_
    refine exists_takes_seq (exists_takes_optional (exists_takes_char '=' _)) ?_
    refine exists_takes_seq (exists_takes_blanks hw.afterSign) ?_
    exact exists_takes_seq (exists_takes_capture (hname _)) (exists_takes_bracketed hw hblob after)
  simpa [Written.fromId, Written.assignment] using hnamed

/-- A unit as it is written can be recognised, with any title of one line. -/
theorem exists_takes_body {gap title : List Char} (hgap : IsBlanks gap) (htitle : '\n' ∉ title) :
    ∃ marks, body.Takes (gap ++ (title ++ (w.beforeId ++ w.fromId []))) marks after := by
  have hline : ∀ text, ∃ marks, (Pattern.few (.one (· != '\n'))).Takes title marks text :=
    fun text ↦ ⟨[], takes_few_one_iff.mpr ⟨fun c hc ↦ bne_iff_ne.mpr fun heq ↦ htitle (heq ▸ hc),
      rfl⟩⟩
  have hnone : ∀ text, ∃ marks, blanks.Takes [] marks text := fun text ↦
    exists_takes_blanks isBlanks_nil
  refine exists_takes_seq (exists_takes_blanks hgap) ?_
  refine @exists_takes_seq _ _ [] _ _ (exists_takes_nothing _ _) ?_
  refine @exists_takes_seq _ _ [] _ _ (exists_takes_nothing _ _) ?_
  refine @exists_takes_seq _ _ [] _ _ (exists_takes_nothing _ _) ?_
  refine @exists_takes_seq _ _ [] _ _ (hnone _) ?_
  refine exists_takes_seq (exists_takes_capture (hline _)) ?_
  refine @exists_takes_seq _ _ [] _ _ ⟨[], .manyNil⟩ ?_
  refine exists_takes_seq (exists_takes_blanks hw.beforeId) ?_
  exact @exists_takes_seq _ _ [] _ _ (exists_takes_nothing _ _) (exists_takes_named hw hblob after)

end Recognisable

end Errand.Plan
