import Errand.Proofs.Run.Substitution

/-!
# Resolving a text again

Once the outputs have been put into a template, nothing should be left to put in: the resolved text
is `Stable`. It is not enough that every step id of the template has an output and that no output
has an id in it (`Covers`). An output can grow together with the text beside it into an id that an
earlier entry has already looked for (`not_stable_grown_together`): its end with what follows, or
its beginning with a lone mark in front of it.

That cannot happen if no output ends with the beginning of an id and no mark of the template stands
alone directly in front of a step id (`Apart`); marks may stand alone anywhere else, also in front
of one another. `Settling ids due text` is the invariant. Every mark of the
text is that of an id among those still due, or begins no id of `ids` whatever may be put in behind
it. An entry makes a text settle further (`Settling.substitute`). Its id is gone afterwards, its
output brings only marks of the second kind, and the ids still due stay as they are, unless the
entry takes the digits behind one of them away together with its mark. When no id is due any more,
none is found (`Settling.contains`), so the resolved text is left as it is.
-/

set_option autoImplicit false

namespace Errand

namespace Text

variable {part front text tail : List Char}

theorem not_isPrefix_of_contains (h : contains part text = false) (htail : tail <:+ text) :
    ¬ part <+: tail := by
  induction text with
  | nil =>
    rw [List.suffix_nil.mp htail]
    cases part <;> simp_all [contains]
  | cons c text ih =>
    simp only [contains, Bool.or_eq_false_iff] at h
    rcases List.suffix_cons_iff.mp htail with rfl | htail
    · simpa [Bool.eq_false_iff, List.isPrefixOf_iff_prefix] using h.1
    · exact ih h.2 htail

/-- A part that begins nowhere in front of a text is in both together only if it is in the text. -/
theorem contains_append_of_not_isPrefix
    (h : ∀ tail, tail <:+ front → tail ≠ [] → ¬ part <+: tail ++ text)
    (htext : contains part text = false) : contains part (front ++ text) = false := by
  induction front with
  | nil => exact htext
  | cons c front ih =>
    have hhere : ¬ part <+: c :: (front ++ text) :=
      h (c :: front) (List.suffix_refl _) (List.cons_ne_nil c front)
    have hrest := ih fun tail htail ↦ h tail (htail.trans (List.suffix_cons c front))
    simpa [contains, hrest, Bool.eq_false_iff, List.isPrefixOf_iff_prefix] using hhere

/-- What is not in a text is not in what follows its beginning. -/
theorem contains_of_append (h : contains part (front ++ text) = false) :
    contains part text = false := by
  induction front with
  | nil => exact h
  | cons c front ih =>
    simp only [List.cons_append, contains, Bool.or_eq_false_iff] at h
    exact ih h.2

end Text

namespace Results

open Plan (IsDigits IsStepId)

/-! ### Step ids in a text -/

/-- The step id at the start of a text, with all the digits that follow its mark. -/
def tokenAt : List Char → Option (List Char)
  | '#' :: 'E' :: text =>
    match text.takeWhile Text.isDigit with
    | [] => none
    | digits => some ('#' :: 'E' :: digits)
  | _ => none

/-- The step ids in a text. -/
def tokens : List Char → List (List Char)
  | [] => []
  | c :: text => (tokenAt (c :: text)).toList ++ tokens text

theorem mem_tokens_append {token text : List Char} (front : List Char)
    (h : token ∈ tokens text) : token ∈ tokens (front ++ text) := by
  induction front with
  | nil => exact h
  | cons c front ih => exact List.mem_append_right _ ih

/-- What stands behind a mark: the rest of a step id, or nothing that a step id begins with, or the
end of the text is too near, or another mark is, directly or behind the letter. -/
theorem mark_cases (text : List Char) :
    (∃ digits rest, text = 'E' :: (digits ++ rest) ∧
      tokenAt ('#' :: text) = some ('#' :: 'E' :: digits)) ∨
    (∃ c rest, text = c :: rest ∧ c ≠ 'E' ∧ c ≠ '#') ∨
    (∃ c rest, text = 'E' :: c :: rest ∧ Text.isDigit c = false ∧ c ≠ '#') ∨
    (text = [] ∨ text = ['E']) ∨
    (∃ rest, text = '#' :: rest) ∨ ∃ rest, text = 'E' :: '#' :: rest := by
  rcases text with _ | ⟨c, text⟩
  · simp
  by_cases hmark : c = '#'
  · simp [hmark]
  by_cases hc : c = 'E'
  · subst hc
    rcases text with _ | ⟨d, text⟩
    · simp
    by_cases hd : Text.isDigit d
    · refine .inl ⟨(d :: text).takeWhile Text.isDigit, (d :: text).dropWhile Text.isDigit, ?_, ?_⟩
      · rw [List.takeWhile_append_dropWhile]
      · simp [tokenAt, hd]
    by_cases hnext : d = '#'
    · simp [hnext]
    · exact .inr (.inr (.inl ⟨d, text, rfl, by simpa using hd, hnext⟩))
  · exact .inr (.inl ⟨c, text, rfl, hc, hmark⟩)

/-- What is left of a step id behind another is without a mark. -/
theorem notMem_of_isStepId_append {id rest : List Char} (hid : IsStepId id)
    (happend : IsStepId (id ++ rest)) : '#' ∉ rest := by
  obtain ⟨front, rfl, -⟩ := hid.exists_mark
  obtain ⟨whole, hwhole, hmark⟩ := happend.exists_mark
  obtain rfl : front ++ rest = whole := (List.cons.inj hwhole).2
  exact fun hmem ↦ hmark (List.mem_append_right front hmem)

/-! ### What templates and outputs must not do -/

/-- Whether resolving a resolved template changes nothing. -/
def Stable (results : Results) (template : String) : Prop :=
  results.resolve (results.resolve template) = results.resolve template

/-- Whether every step id of a template has an output, and no output has an id in it. -/
structure Covers (results : Results) (template : String) : Prop where
  tokens : ∀ token ∈ tokens template.toList, String.ofList token ∈ Entries.names results.entries
  outputs : ∀ entry ∈ results.entries, ∀ id ∈ Entries.names results.entries, id ≠ "" →
    Text.contains id.toList entry.2.toList = false

/-- Whether no output can grow together with the text beside it into an id. -/
structure Apart (results : Results) (template : String) : Prop where
  /-- The ids are step ids, but for the empty one. -/
  ids : ∀ id ∈ Entries.names results.entries, id ≠ "" → IsStepId id.toList
  /-- No output ends with the beginning of an id. -/
  outputs : ∀ entry ∈ results.entries, ∀ id ∈ Entries.names results.entries, id ≠ "" →
    ∀ tail, tail <:+ entry.2.toList → tail ≠ [] → ¬ tail <+: id.toList
  /-- No mark of the template stands alone in front of a step id. -/
  marks : ∀ tail, '#' :: tail <:+ template.toList → tokenAt tail = none
  /-- No mark stands with its letter alone in front of a step id. -/
  letters : ∀ tail, '#' :: 'E' :: tail <:+ template.toList → tokenAt tail = none

/-- Whether no id begins in a text, whatever may come to stand behind it. -/
def Inert (ids : List String) (text : List Char) : Prop :=
  ∀ tail, tail <:+ text → tail ≠ [] → ∀ id ∈ ids, ¬ id.toList <+: tail ∧ ¬ tail <+: id.toList

/-- Every mark of a text is that of an id that is due, or that of no id at all. -/
inductive Settling (ids due : List String) : List Char → Prop
  /-- No id is in the text, and nothing follows. -/
  | ending {text : List Char} (htext : ∀ id ∈ ids, Text.contains id.toList text = false) :
      Settling ids due text
  /-- Something follows a text in which no id can begin. -/
  | inert {front text : List Char} (hfront : Inert ids front) (htext : Settling ids due text) :
      Settling ids due (front ++ text)
  /-- Something follows an id that is due. -/
  | id {id : String} {text : List Char} (hid : id ∈ due) (htext : Settling ids due text) :
      Settling ids due (id.toList ++ text)

section Settling

variable {ids due : List String} {entry : String × String} {front text : List Char}

theorem Inert.suffix {tail : List Char} (h : Inert ids text) (htail : tail <:+ text) :
    Inert ids tail :=
  fun other hother ↦ h other (hother.trans htail)

theorem Inert.not_isPrefix {tail : List Char} (h : Inert ids front) (htail : tail <:+ front)
    (hnonempty : tail ≠ []) {id : String} (hid : id ∈ ids) : ¬ id.toList <+: tail ++ text := by
  intro hstarts
  obtain ⟨hbegins, hbegun⟩ := h tail htail hnonempty id hid
  exact (List.prefix_or_prefix_of_prefix hstarts (List.prefix_append tail text)).elim hbegins hbegun

/-- Nothing is put into a text in which no id can begin. -/
theorem Inert.substitute_append (h : Inert ids front) (hentry : entry.1 ∈ ids) :
    substitute (front ++ text) entry = front ++ substitute text entry :=
  Text.replace_append_of_not_isPrefix fun _ htail hnonempty ↦ h.not_isPrefix htail hnonempty hentry

/-- A text without a mark is inert. -/
theorem inert_of_notMem (hids : ∀ id ∈ ids, IsStepId id.toList) (hmark : '#' ∉ text) :
    Inert ids text := by
  intro tail htail hnonempty id hid
  obtain ⟨c, tail, rfl⟩ := List.exists_cons_of_ne_nil hnonempty
  obtain ⟨rest, hrest, -⟩ := (hids id hid).exists_mark
  have hc : c ≠ '#' := by
    rintro rfl
    exact hmark (htail.subset List.mem_cons_self)
  simp [hrest, List.cons_prefix_cons, hc, Ne.symm hc]

theorem Inert.cons {c : Char} (h : Inert ids text)
    (hhere : ∀ id ∈ ids, ¬ id.toList <+: c :: text ∧ ¬ c :: text <+: id.toList) :
    Inert ids (c :: text) := by
  intro tail htail hnonempty
  rcases List.suffix_cons_iff.mp htail with rfl | htail
  · exact hhere
  · exact h tail htail hnonempty

/-- What follows a beginning without a mark settles too. -/
theorem Settling.of_append {whole : List Char} (h : Settling ids due whole)
    (hids : ∀ id ∈ due, IsStepId id.toList) (hwhole : whole = front ++ text)
    (hmark : '#' ∉ front) : Settling ids due text := by
  induction h generalizing front with
  | ending htext =>
    subst hwhole
    exact .ending fun id hid ↦ Text.contains_of_append (htext id hid)
  | @inert first rest hfirst hrest ih =>
    rcases List.append_eq_append_iff.mp hwhole with ⟨more, rfl, hmore⟩ | ⟨more, rfl, rfl⟩
    · exact ih hmore fun hmem ↦ hmark (List.mem_append_right first hmem)
    · exact .inert (hfirst.suffix ⟨front, rfl⟩) hrest
  | @id id rest hid hrest _ =>
    cases front with
    | nil =>
      rw [← List.nil_append text, ← hwhole]
      exact .id hid hrest
    | cons c front =>
      obtain ⟨others, hothers, -⟩ := (hids id hid).exists_mark
      rw [hothers, List.cons_append, List.cons_append] at hwhole
      exact absurd ((List.cons.inj hwhole).1 ▸ List.mem_cons_self) hmark

/-- An entry makes a text settle further: its id is due no more. The induction is on the text. Where
an id is due, the id of the entry is no longer, or it has some more digits, or it is not there. -/
theorem Settling.substitute (hids : ∀ id ∈ ids, IsStepId id.toList) (hentry : entry.1 ∈ ids)
    (houtput : Inert ids entry.2.toList) (hdue : ∀ id ∈ due, id ∈ ids)
    (h : Settling ids (entry.1 :: due) text) : Settling ids due (substitute text entry) := by
  induction h with
  | ending htext =>
    rw [Results.substitute, Text.replace_of_contains (htext entry.1 hentry)]
    exact .ending htext
  | inert hfront _ ih =>
    rw [hfront.substitute_append hentry]
    exact .inert hfront ih
  | @id id text hid _ ih =>
    have hstep := hids entry.1 hentry
    have hidStep : IsStepId id.toList :=
      (List.mem_cons.mp hid).elim (fun heq ↦ heq ▸ hstep) fun hmem ↦ hids id (hdue id hmem)
    by_cases hstarts : entry.1.toList <+: id.toList ++ text
    · rcases List.prefix_or_prefix_of_prefix hstarts (List.prefix_append id.toList text) with
        ⟨rest, hrest⟩ | ⟨rest, hrest⟩
      · have hmark : '#' ∉ rest := notMem_of_isStepId_append hstep (hrest ▸ hidStep)
        rw [← hrest, List.append_assoc, substitute_append_self hstep,
          substitute_append_of_notMem hstep hmark]
        exact .inert houtput (.inert (inert_of_notMem hids hmark) ih)
      · have hmark : '#' ∉ rest := notMem_of_isStepId_append hidStep (hrest ▸ hstep)
        obtain ⟨after, rfl⟩ : rest <+: text := by
          rwa [← hrest, List.prefix_append_right_inj] at hstarts
        rw [substitute_append_of_notMem hstep hmark] at ih
        rw [← List.append_assoc, hrest, substitute_append_self hstep]
        exact .inert houtput (ih.of_append (fun id hid ↦ hids id (hdue id hid)) rfl hmark)
    · rw [substitute_append_of_not_isPrefix hstep hidStep hstarts]
      refine .id ((List.mem_cons.mp hid).resolve_left ?_) ih
      rintro rfl
      exact hstarts (List.prefix_append _ text)

/-- All entries make a text settle, if their ids are all that is due. -/
theorem Settling.resolveText {entries : List (String × String)}
    (hids : ∀ id ∈ ids, IsStepId id.toList) (hentries : ∀ id ∈ Entries.names entries, id ∈ ids)
    (houtputs : ∀ entry ∈ entries, Inert ids entry.2.toList)
    (h : Settling ids (Entries.names entries) text) :
    Settling ids [] (resolveText entries text) := by
  induction entries generalizing text with
  | nil => exact h
  | cons entry entries ih =>
    have hrest (id : String) (hid : id ∈ Entries.names entries) : id ∈ ids :=
      hentries id (List.mem_cons_of_mem entry.1 hid)
    rw [Results.resolveText, List.foldl_cons]
    exact ih hrest (fun other hother ↦ houtputs other (List.mem_cons_of_mem entry hother))
      (h.substitute hids (hentries entry.1 List.mem_cons_self)
        (houtputs entry List.mem_cons_self) hrest)

/-- If no id is due, none is found. -/
theorem Settling.contains (h : Settling ids [] text) {id : String} (hid : id ∈ ids) :
    Text.contains id.toList text = false := by
  induction h with
  | ending htext => exact htext id hid
  | inert hfront _ ih =>
    exact Text.contains_append_of_not_isPrefix
      (fun tail htail hnonempty ↦ hfront.not_isPrefix htail hnonempty hid) ih
  | id hdue _ _ => cases hdue

/-! ### Templates settle -/

/-- A step id is longer than a mark and a letter. -/
theorem contains_of_short (hids : ∀ id ∈ ids, IsStepId id.toList) (hshort : text.length ≤ 2) :
    ∀ id ∈ ids, Text.contains id.toList text = false := by
  intro id hid
  have hhead := (hids id hid).head?
  obtain ⟨digits, hdigits, -, hid⟩ := hids id hid
  have hlong : 3 ≤ id.toList.length := by
    have hpos := List.length_pos_iff.mpr hdigits
    simp [hid]
    omega
  have hnowhere : ∀ tail, tail <:+ text → tail ≠ [] → ¬ id.toList <+: tail ++ [] := by
    intro tail htail _ hstarts
    have hbegins := hstarts.length_le
    have hends := htail.length_le
    rw [List.append_nil] at hbegins
    omega
  have hnil : Text.contains id.toList [] = false :=
    Text.contains_eq_false_of_notMem (List.mem_of_mem_head? hhead) List.not_mem_nil
  simpa using Text.contains_append_of_not_isPrefix hnowhere hnil

/-- Whether no id of a text is due at its start: no id is in it, or it begins with a text in which
no id can begin. -/
inductive Calm (ids due : List String) : List Char → Prop
  /-- No id is in the text. -/
  | ending {text : List Char} (htext : ∀ id ∈ ids, Text.contains id.toList text = false) :
      Calm ids due text
  /-- Something follows a text in which no id can begin. -/
  | inert {c : Char} {front text : List Char} (hfront : Inert ids (c :: front))
      (htext : Settling ids due text) : Calm ids due (c :: (front ++ text))

theorem Calm.settling (h : Calm ids due text) : Settling ids due text := by
  cases h with
  | ending htext => exact .ending htext
  | inert hfront htext => exact .inert hfront htext

/-- A step id begins with a mark, its letter and a digit. -/
theorem exists_digit {id : List Char} (h : IsStepId id) :
    ∃ digit rest, Text.isDigit digit ∧ id = '#' :: 'E' :: digit :: rest := by
  obtain ⟨digits, hne, hdigits, rfl⟩ := h
  obtain ⟨digit, rest, rfl⟩ := List.exists_cons_of_ne_nil hne
  exact ⟨digit, rest, hdigits digit List.mem_cons_self, rfl⟩

/-- No id begins where neither the letter nor another mark follows a mark. -/
theorem inert_mark {c : Char} (hids : ∀ id ∈ ids, IsStepId id.toList) (hletter : c ≠ 'E')
    (hmark : c ≠ '#') : Inert ids ['#', c] := by
  refine (inert_of_notMem hids (by simpa using Ne.symm hmark)).cons fun id hid ↦ ?_
  obtain ⟨digit, others, -, hid⟩ := exists_digit (hids id hid)
  simp [hid, List.cons_prefix_cons, hletter, Ne.symm hletter]

/-- No id begins where neither a digit nor another mark follows a mark and its letter. -/
theorem inert_letter {c : Char} (hids : ∀ id ∈ ids, IsStepId id.toList)
    (hdigit : Text.isDigit c = false) (hmark : c ≠ '#') : Inert ids ['#', 'E', c] := by
  refine (inert_of_notMem hids (by simpa using Ne.symm hmark)).cons fun id hid ↦ ?_
  obtain ⟨digit, others, hisDigit, hid⟩ := exists_digit (hids id hid)
  have hne : c ≠ digit := by
    rintro rfl
    simp [hdigit] at hisDigit
  simp [hid, List.cons_prefix_cons, hne, Ne.symm hne]

/-- A mark in front of a mark begins no id. -/
theorem Calm.behind_mark (hids : ∀ id ∈ ids, IsStepId id.toList) (h : Calm ids due ('#' :: text)) :
    Calm ids due ('#' :: '#' :: text) := by
  have hhere : ∀ rest, ∀ id ∈ ids,
      ¬ id.toList <+: '#' :: '#' :: rest ∧ ¬ '#' :: '#' :: rest <+: id.toList := by
    intro rest id hid
    obtain ⟨digit, others, -, hid⟩ := exists_digit (hids id hid)
    simp [hid, List.cons_prefix_cons]
  cases h with
  | ending htext =>
    refine .ending fun id hid ↦ ?_
    have hnot := (hhere text id hid).1
    rw [Text.contains, htext id hid]
    simpa [List.isPrefixOf_iff_prefix, Bool.eq_false_iff] using hnot
  | @inert _ front rest hfront hrest =>
    exact .inert (hfront.cons (hhere front)) hrest

/-- A mark with its letter in front of a mark begins no id. -/
theorem Calm.behind_letter (hids : ∀ id ∈ ids, IsStepId id.toList)
    (h : Calm ids due ('#' :: text)) : Calm ids due ('#' :: 'E' :: '#' :: text) := by
  have hletter : ∀ rest, ∀ id ∈ ids,
      ¬ id.toList <+: 'E' :: rest ∧ ¬ 'E' :: rest <+: id.toList := by
    intro rest id hid
    obtain ⟨digit, others, -, hid⟩ := exists_digit (hids id hid)
    simp [hid, List.cons_prefix_cons]
  have hmark : ∀ rest, ∀ id ∈ ids,
      ¬ id.toList <+: '#' :: 'E' :: '#' :: rest ∧ ¬ '#' :: 'E' :: '#' :: rest <+: id.toList := by
    intro rest id hid
    obtain ⟨digit, others, hdigit, hid⟩ := exists_digit (hids id hid)
    have hne : digit ≠ '#' := by
      rintro rfl
      exact absurd hdigit (by decide)
    simp [hid, List.cons_prefix_cons, hne, Ne.symm hne]
  cases h with
  | ending htext =>
    refine .ending fun id hid ↦ ?_
    have hnot := (hmark text id hid).1
    have hnot' := (hletter ('#' :: text) id hid).1
    rw [Text.contains, Text.contains, htext id hid]
    simpa [List.isPrefixOf_iff_prefix, Bool.eq_false_iff] using ⟨hnot, hnot'⟩
  | @inert _ front rest hfront hrest =>
    exact .inert ((hfront.cons (hletter ('#' :: front))).cons (hmark front)) hrest

/-- A template settles if its step ids are due and no mark stands too near to one of them. Where no
step id begins, no id is due. -/
theorem settling_of_tokens (hids : ∀ id ∈ ids, IsStepId id.toList) (text : List Char)
    (htokens : ∀ token ∈ tokens text, String.ofList token ∈ ids)
    (hmarks : ∀ tail, '#' :: tail <:+ text → tokenAt tail = none)
    (hletters : ∀ tail, '#' :: 'E' :: tail <:+ text → tokenAt tail = none) :
    Settling ids ids text ∧ (tokenAt text = none → Calm ids ids text) := by
  have hrest (front rest : List Char) (hnonempty : front ≠ []) (htext : text = front ++ rest) :
      Settling ids ids rest ∧ (tokenAt rest = none → Calm ids ids rest) := by
    have hpos := List.length_pos_iff.mpr hnonempty
    have hshorter : rest.length < text.length := by
      rw [htext, List.length_append]
      omega
    have hsuffix : rest <:+ text := htext ▸ List.suffix_append front rest
    exact settling_of_tokens hids rest
      (fun token htoken ↦ htokens token (htext ▸ mem_tokens_append front htoken))
      (fun tail htail ↦ hmarks tail (htail.trans hsuffix))
      fun tail htail ↦ hletters tail (htail.trans hsuffix)
  have hboth (h : Calm ids ids text) :
      Settling ids ids text ∧ (tokenAt text = none → Calm ids ids text) :=
    ⟨h.settling, fun _ ↦ h⟩
  rcases text with _ | ⟨c, text⟩
  · exact hboth (.ending (contains_of_short hids (by simp)))
  by_cases hc : c = '#'
  · subst hc
    rcases mark_cases text with ⟨digits, rest, rfl, htoken⟩ | ⟨c, rest, rfl, hletter, hmark⟩ |
      ⟨c, rest, rfl, hdigit, hmark⟩ | hshort | ⟨rest, rfl⟩ | ⟨rest, rfl⟩
    · have hid := htokens ('#' :: 'E' :: digits) (by simp [tokens, htoken])
      have hsettles := Settling.id hid (hrest ('#' :: 'E' :: digits) rest (by simp) rfl).1
      rw [String.toList_ofList] at hsettles
      exact ⟨hsettles, fun hnone ↦ by simp [hnone] at htoken⟩
    · exact hboth (.inert (inert_mark hids hletter hmark) (hrest ['#', c] rest (by simp) rfl).1)
    · exact hboth (.inert (inert_letter hids hdigit hmark)
        (hrest ['#', 'E', c] rest (by simp) rfl).1)
    · exact hboth (.ending (contains_of_short hids (by rcases hshort with rfl | rfl <;> simp)))
    · have hcalm := (hrest ['#'] ('#' :: rest) (by simp) rfl).2
      exact hboth ((hcalm (hmarks ('#' :: rest) (List.suffix_refl _))).behind_mark hids)
    · have hcalm := (hrest ['#', 'E'] ('#' :: rest) (by simp) rfl).2
      exact hboth ((hcalm (hletters ('#' :: rest) (List.suffix_refl _))).behind_letter hids)
  · have hinert : Inert ids [c] := inert_of_notMem hids (by simpa using Ne.symm hc)
    exact hboth (.inert hinert (hrest [c] text (by simp) rfl).1)
termination_by text.length

end Settling

theorem ne_nil_of_mem_tokens {token text : List Char} (h : token ∈ tokens text) : token ≠ [] := by
  induction text with
  | nil => cases h
  | cons c text ih =>
    rcases List.mem_append.mp h with hhere | hlater
    · rintro rfl
      unfold tokenAt at hhere
      split at hhere
      · split at hhere <;> simp at hhere
      · simp at hhere
    · exact ih hlater

theorem mem_names_named {results : Results} {id : String} :
    id ∈ Entries.names results.named ↔ id ∈ Entries.names results.entries ∧ id ≠ "" := by
  simp only [Entries.names, named, List.mem_map, List.mem_filter, decide_eq_true_eq]
  constructor
  · rintro ⟨entry, ⟨hentry, hne⟩, rfl⟩
    exact ⟨⟨entry, hentry, rfl⟩, hne⟩
  · rintro ⟨⟨entry, hentry, rfl⟩, hne⟩
    exact ⟨entry, ⟨hentry, hne⟩, rfl⟩

/-- A resolved template is resolved for good, if every step id of it has an output, no output has an
id in it, and no output can grow together with the text beside it into an id. -/
theorem stable_of_covers {results : Results} {template : String} (hcovers : results.Covers template)
    (hapart : results.Apart template) : results.Stable template := by
  have hids : ∀ id ∈ Entries.names results.named, IsStepId id.toList := fun id hid ↦
    hapart.ids id (mem_names_named.mp hid).1 (mem_names_named.mp hid).2
  have hinert : ∀ entry ∈ results.named, Inert (Entries.names results.named) entry.2.toList := by
    intro entry hentry tail htail hnonempty id hid
    obtain ⟨hname, hne⟩ := mem_names_named.mp hid
    have hmem : entry ∈ results.entries := List.mem_of_mem_filter hentry
    exact ⟨Text.not_isPrefix_of_contains (hcovers.outputs entry hmem id hname hne) htail,
      hapart.outputs entry hmem id hname hne tail htail hnonempty⟩
  have htokens : ∀ token ∈ tokens template.toList,
      String.ofList token ∈ Entries.names results.named := fun token htoken ↦
    mem_names_named.mpr ⟨hcovers.tokens token htoken, by simpa using ne_nil_of_mem_tokens htoken⟩
  have hsettles := (settling_of_tokens hids template.toList htokens hapart.marks
    hapart.letters).1.resolveText hids (fun _ hid ↦ hid) hinert
  rw [Stable, resolve_eq, resolve_eq, String.toList_ofList,
    resolveText_of_contains fun id hid ↦ hsettles.contains hid]

/-- One id begins another, and an output is all digits. It grows together with the id in front of it
into one that has been looked for already, but the id in front has an output too. Marks in front of
one another do no harm where no step id follows them. -/
theorem stable_of_covers_grown_together :
    let results := ofList [("#E12", "see #E9."), ("#E3", "2"), ("", "x"), ("#E1", "w")]
    let template := "## #E1#E3 #E12 #E#"
    results.Covers template ∧ results.Apart template ∧ results.Stable template ∧
      results.resolve template = "## w2 see #E9. #E#" := by
  intro results template
  have hcovers : results.Covers template := ⟨by decide +kernel, by decide +kernel⟩
  have houtputs : ∀ entry ∈ results.entries, ∀ id ∈ Entries.names results.entries, id ≠ "" →
      ∀ tail ∈ entry.2.toList.tails, tail ≠ [] → ¬ tail <+: id.toList := by decide +kernel
  have hmarks : ∀ tail ∈ template.toList.tails, tail.head? = some '#' →
      tokenAt tail.tail = none := by decide +kernel
  have hletters : ∀ tail ∈ template.toList.tails, tail.take 2 = ['#', 'E'] →
      tokenAt (tail.drop 2) = none := by decide +kernel
  have hapart : results.Apart template :=
    { ids := by
        have hnames : Entries.names results.entries = ["#E12", "#E3", "", "#E1"] := by
          decide +kernel
        simp only [hnames, List.forall_mem_cons, List.not_mem_nil, false_imp_iff, implies_true,
          and_true, ne_eq, not_true_eq_false, true_and]
        exact ⟨fun _ ↦ ⟨['1', '2'], by decide, List.all_eq_true.mp (by decide), rfl⟩,
          fun _ ↦ ⟨['3'], by decide, List.all_eq_true.mp (by decide), rfl⟩,
          fun _ ↦ isStepId_one⟩
      outputs := fun entry hentry id hid hne tail htail ↦
        houtputs entry hentry id hid hne tail ((List.mem_tails _ _).mpr htail)
      marks := fun tail htail ↦ hmarks ('#' :: tail) ((List.mem_tails _ _).mpr htail) rfl
      letters := fun tail htail ↦
        hletters ('#' :: 'E' :: tail) ((List.mem_tails _ _).mpr htail) rfl }
  exact ⟨hcovers, hapart, stable_of_covers hcovers hapart, by decide +kernel⟩

/-- Every step id has an output and no output has an id in it, and yet a resolved template is not
resolved for good. An output ends with a mark; a mark, or a mark and its letter, stand alone in
front of a step id; an id is no step id, and is left over where its occurrences overlap. -/
theorem not_stable_grown_together :
    ((ofList [("#E12", "v"), ("#E3", "#")]).Covers "#E3E12" ∧
      ¬ (ofList [("#E12", "v"), ("#E3", "#")]).Stable "#E3E12") ∧
    ((ofList [("#E12", "v"), ("#E3", "E12")]).Covers "##E3" ∧
      ¬ (ofList [("#E12", "v"), ("#E3", "E12")]).Stable "##E3") ∧
    ((ofList [("#E12", "v"), ("#E3", "12")]).Covers "#E#E3" ∧
      ¬ (ofList [("#E12", "v"), ("#E3", "12")]).Stable "#E#E3") ∧
    ((ofList [("aa", "a")]).Covers "aaa" ∧ ¬ (ofList [("aa", "a")]).Stable "aaa") := by
  unfold Stable
  exact ⟨⟨⟨by decide +kernel, by decide +kernel⟩, by decide +kernel⟩,
    ⟨⟨by decide +kernel, by decide +kernel⟩, by decide +kernel⟩,
    ⟨⟨by decide +kernel, by decide +kernel⟩, by decide +kernel⟩,
    ⟨⟨by decide +kernel, by decide +kernel⟩, by decide +kernel⟩⟩

end Results

end Errand
