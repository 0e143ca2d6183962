import Errand.Proofs.Run.Resolving

/-!
# Outputs put in all at once

Outputs are put into a text one after another, and every time the whole text is gone through again.
`replaceAll` goes through it once, from left to right, and puts in the output of whatever id it
finds. The two differ in general: an id may be found in an output that was put in before, or only
after an output and the text beside it have come together.

They agree on a text that is woven of ids and of characters other than the mark (`Woven`), if no id
begins another and no output has a mark in it (`Unmixed`). Such a text leaves no choice: whoever
puts outputs in the places of ids and leaves the other characters alone (`PutsIn`) makes the same of
it (`Woven.eq_of_putsIn`). One entry after another does so: an id is left in place by the entries
before its own, becomes its output, and no later id is found in that (`resolveText_append_id`). One
pass does so too, and the order of the entries does not matter to it.
-/

set_option autoImplicit false

namespace Errand.Results

open Plan (IsStepId)

/-- The entries that stand for something: those whose id is not empty. -/
def named (results : Results) : List (String × String) :=
  results.entries.filter fun entry ↦ entry.1 ≠ ""

/-- A text with every id in it replaced by its output, in one pass from left to right; `skip`
characters of an id that has been replaced are still to be passed over. -/
def replaceAll (entries : List (String × String)) : (skip : Nat) → List Char → List Char
  | _, [] => []
  | skip + 1, _ :: text => replaceAll entries skip text
  | 0, c :: text =>
    match entries.find? fun entry ↦ entry.1.toList.isPrefixOf (c :: text) with
    | some (id, output) => output.toList ++ replaceAll entries (id.toList.length - 1) text
    | none => c :: replaceAll entries 0 text

/-- Entries under step ids of which none begins another, with outputs that have no mark in them. -/
structure Unmixed (entries : List (String × String)) : Prop where
  /-- The ids are step ids. -/
  ids : ∀ id ∈ Entries.names entries, IsStepId id.toList
  /-- No id begins another. -/
  apart : ∀ id ∈ Entries.names entries, ∀ other ∈ Entries.names entries,
    id.toList <+: other.toList → id = other
  /-- No output has a mark in it. -/
  outputs : ∀ entry ∈ entries, '#' ∉ entry.2.toList

/-- The texts in which every mark is that of an id. -/
inductive Woven (ids : List String) : List Char → Prop
  | nil : Woven ids []
  | cons {c : Char} {text : List Char} (hc : c ≠ '#') (htext : Woven ids text) :
      Woven ids (c :: text)
  | id {id : String} {text : List Char} (hid : id ∈ ids) (htext : Woven ids text) :
      Woven ids (id.toList ++ text)

/-- Whether a function leaves characters other than the mark and puts outputs in the places of
ids. -/
structure PutsIn (entries : List (String × String)) (f : List Char → List Char) : Prop where
  nil : f [] = []
  cons : ∀ c text, c ≠ '#' → f (c :: text) = c :: f text
  id : ∀ entry ∈ entries, ∀ text, f (entry.1.toList ++ text) = entry.2.toList ++ f text

/-! ### Entries with an id -/

theorem nodup_named (results : Results) : (Entries.names results.named).Nodup :=
  results.nodup.sublist (List.filter_sublist.map _)

/-- The empty id stands for nothing. -/
theorem resolve_eq (results : Results) (template : String) :
    results.resolve template = String.ofList (resolveText results.named template.toList) := by
  have hskip (entries : List (String × String)) (text : List Char) :
      resolveText (entries.filter fun entry ↦ entry.1 ≠ "") text = resolveText entries text := by
    induction entries generalizing text with
    | nil => rfl
    | cons entry entries ih =>
      by_cases hempty : entry.1 = ""
      · have hentry : substitute text entry = text := by simp [substitute, Text.replace, hempty]
        simpa [resolveText, hempty, hentry] using ih text
      · simpa [resolveText, hempty] using ih (substitute text entry)
  rw [resolve, named, hskip]
  rfl

section Entries

variable {entries : List (String × String)} {entry : String × String} {front text : List Char}

theorem Unmixed.tail (h : Unmixed (entry :: entries)) : Unmixed entries where
  ids id hid := h.ids id (List.mem_cons_of_mem entry.1 hid)
  apart id hid other hother :=
    h.apart id (List.mem_cons_of_mem entry.1 hid) other (List.mem_cons_of_mem entry.1 hother)
  outputs other hother := h.outputs other (List.mem_cons_of_mem entry hother)

/-- An id that stands at the start of a text is the only one that does. -/
theorem Unmixed.eq_of_prefix (h : Unmixed entries) {id other : String}
    (hid : id ∈ Entries.names entries) (hother : other ∈ Entries.names entries)
    (hstarts : other.toList <+: id.toList ++ text) : other = id := by
  rcases List.prefix_or_prefix_of_prefix hstarts (List.prefix_append id.toList text) with h' | h'
  · exact h.apart other hother id hid h'
  · exact (h.apart id hid other hother h').symm

/-! ### One entry after another -/

/-- An id at the start of a text becomes its output. The induction is on the entries: those before
its own leave it, and those after it find nothing in the output. -/
theorem resolveText_append_id (h : Unmixed entries) (hnodup : (Entries.names entries).Nodup)
    (hentry : entry ∈ entries) :
    resolveText entries (entry.1.toList ++ text) = entry.2.toList ++ resolveText entries text := by
  induction entries generalizing text with
  | nil => cases hentry
  | cons first entries ih =>
    rw [resolveText, List.foldl_cons, resolveText, List.foldl_cons]
    obtain ⟨hfresh, hnodup⟩ := List.nodup_cons.mp hnodup
    rcases List.mem_cons.mp hentry with rfl | hlater
    · rw [substitute_append_self (h.ids entry.1 List.mem_cons_self)]
      exact resolveText_append_of_notMem h.tail.ids (h.outputs entry List.mem_cons_self)
    · have hname : entry.1 ∈ Entries.names entries := List.mem_map_of_mem hlater
      have hid := List.mem_cons_of_mem first.1 hname
      have hleft : ¬ first.1.toList <+: entry.1.toList ++ text := fun hstarts ↦
        hfresh (by rwa [← h.eq_of_prefix hid List.mem_cons_self hstarts] at hname)
      rw [substitute_append_of_not_isPrefix (h.ids first.1 List.mem_cons_self) (h.ids entry.1 hid)
        hleft]
      exact ih h.tail hnodup hlater

theorem putsIn_resolveText (h : Unmixed entries) (hnodup : (Entries.names entries).Nodup) :
    PutsIn entries (resolveText entries) where
  nil := resolveText_nil h.ids
  cons c text hc := by
    have hmark : '#' ∉ [c] := by simpa using Ne.symm hc
    exact resolveText_append_of_notMem h.ids hmark
  id _ hentry _ := resolveText_append_id h hnodup hentry

/-! ### One pass -/

theorem replaceAll_length (front : List Char) :
    replaceAll entries front.length (front ++ text) = replaceAll entries 0 text := by
  induction front with
  | nil => cases text <;> rfl
  | cons c front ih => exact ih

theorem replaceAll_cons (hids : ∀ id ∈ Entries.names entries, IsStepId id.toList) {c : Char}
    (hc : c ≠ '#') : replaceAll entries 0 (c :: text) = c :: replaceAll entries 0 text := by
  have hnone : entries.find? (fun entry ↦ entry.1.toList.isPrefixOf (c :: text)) = none := by
    refine List.find?_eq_none.mpr fun entry hentry hstarts ↦ ?_
    obtain ⟨rest, hrest, -⟩ := (hids entry.1 (List.mem_map_of_mem hentry)).exists_mark
    rw [hrest, List.isPrefixOf_iff_prefix, List.cons_prefix_cons] at hstarts
    exact hc hstarts.1.symm
  simp only [replaceAll, hnone]

theorem replaceAll_append_id (h : Unmixed entries) (hnodup : (Entries.names entries).Nodup)
    (hentry : entry ∈ entries) :
    replaceAll entries 0 (entry.1.toList ++ text) =
      entry.2.toList ++ replaceAll entries 0 text := by
  have hname : entry.1 ∈ Entries.names entries := List.mem_map_of_mem hentry
  obtain ⟨rest, hrest, -⟩ := (h.ids entry.1 hname).exists_mark
  have hfound : entries.find? (fun other ↦ other.1.toList.isPrefixOf ('#' :: (rest ++ text))) =
      some entry := by
    have hself : entry.1.toList.isPrefixOf ('#' :: (rest ++ text)) := by
      rw [hrest, List.isPrefixOf_iff_prefix]
      exact List.prefix_append ('#' :: rest) text
    cases hfind : entries.find? fun other ↦ other.1.toList.isPrefixOf ('#' :: (rest ++ text)) with
    | none => exact absurd hself (List.find?_eq_none.mp hfind entry hentry)
    | some found =>
      have hmem : found ∈ entries := List.mem_of_find?_eq_some hfind
      have hstarts : found.1.toList.isPrefixOf ('#' :: (rest ++ text)) := by
        simpa using List.find?_some hfind
      rw [List.isPrefixOf_iff_prefix, ← List.cons_append, ← hrest] at hstarts
      have heq : found.1 = entry.1 := h.eq_of_prefix hname (List.mem_map_of_mem hmem) hstarts
      have hlookup := Entries.lookup_of_mem hnodup hmem
      rw [heq, Entries.lookup_of_mem hnodup hentry] at hlookup
      exact congrArg some (Prod.ext heq (Option.some.inj hlookup).symm)
  have hskip : replaceAll entries rest.length (rest ++ text) = replaceAll entries 0 text :=
    replaceAll_length rest
  simp only [hrest, List.cons_append, replaceAll, hfound, List.length_cons, Nat.add_sub_cancel,
    hskip]

theorem putsIn_replaceAll (h : Unmixed entries) (hnodup : (Entries.names entries).Nodup) :
    PutsIn entries (replaceAll entries 0) where
  nil := by rw [replaceAll]
  cons _ _ hc := replaceAll_cons h.ids hc
  id _ hentry _ := replaceAll_append_id h hnodup hentry

/-! ### Woven texts -/

/-- A text in which every mark begins an id is woven. The ids are taken from left to right; what
follows an id has its marks behind it. -/
theorem woven_of_marks (hids : ∀ id ∈ Entries.names entries, IsStepId id.toList)
    (text : List Char) (h : ∀ before after, text = before ++ '#' :: after →
      ∃ id ∈ Entries.names entries, id.toList <+: '#' :: after) :
    Woven (Entries.names entries) text := by
  cases text with
  | nil => exact .nil
  | cons c text =>
    by_cases hc : c = '#'
    · subst hc
      obtain ⟨id, hid, rest, happend⟩ := h [] text rfl
      obtain ⟨others, hothers, -⟩ := (hids id hid).exists_mark
      have hshorter : rest.length < ('#' :: text).length := by
        simp [← happend, hothers]
      rw [← happend]
      refine .id hid (woven_of_marks hids rest fun before after hbefore ↦ ?_)
      exact h (id.toList ++ before) after (by rw [← happend, hbefore, List.append_assoc])
    · exact .cons hc (woven_of_marks hids text fun before after hbefore ↦
        h (c :: before) after (by rw [hbefore, List.cons_append]))
termination_by text.length

/-- What is made of a woven text does not depend on how outputs are put in. -/
theorem Woven.eq_of_putsIn {f g : List Char → List Char}
    (hwoven : Woven (Entries.names entries) text) (hf : PutsIn entries f) (hg : PutsIn entries g) :
    f text = g text := by
  induction hwoven with
  | nil => rw [hf.nil, hg.nil]
  | cons hc _ ih => rw [hf.cons _ _ hc, hg.cons _ _ hc, ih]
  | id hid _ ih =>
    obtain ⟨entry, hentry, rfl⟩ := List.mem_map.mp hid
    rw [hf.id entry hentry, hg.id entry hentry, ih]

/-- All marks of a woven text are those of ids, so none is left. -/
theorem Woven.notMem_of_putsIn {f : List Char → List Char}
    (hwoven : Woven (Entries.names entries) text) (h : Unmixed entries) (hf : PutsIn entries f) :
    '#' ∉ f text := by
  induction hwoven with
  | nil => simp [hf.nil]
  | cons hc _ ih => simpa [hf.cons _ _ hc, Ne.symm hc] using ih
  | id hid _ ih =>
    obtain ⟨entry, hentry, rfl⟩ := List.mem_map.mp hid
    simpa [hf.id entry hentry, h.outputs entry hentry] using ih

/-! ### Any order -/

theorem Unmixed.perm {others : List (String × String)} (h : Unmixed entries)
    (hperm : others.Perm entries) : Unmixed others := by
  have hnames (id : String) : id ∈ Entries.names others ↔ id ∈ Entries.names entries :=
    (hperm.map Prod.fst).mem_iff
  exact
    { ids := fun id hid ↦ h.ids id ((hnames id).mp hid)
      apart := fun id hid other hother ↦
        h.apart id ((hnames id).mp hid) other ((hnames other).mp hother)
      outputs := fun entry hentry ↦ h.outputs entry (hperm.mem_iff.mp hentry) }

theorem PutsIn.perm {others : List (String × String)} {f : List Char → List Char}
    (hf : PutsIn others f) (hperm : others.Perm entries) : PutsIn entries f where
  nil := hf.nil
  cons := hf.cons
  id entry hentry := hf.id entry (hperm.mem_iff.mpr hentry)

end Entries

/-- The ids are step ids of which none begins another, the outputs have no mark in them, and every
mark of a template begins an id. Then putting in the outputs one after another comes to putting them
in all at once. No mark is left, and the order of the entries does not matter. Entries under the
empty id are free to be anything. -/
theorem resolve_eq_replaceAll {results : Results} {template : String}
    (h : Unmixed results.named)
    (hmarks : ∀ before after, template.toList = before ++ '#' :: after →
      ∃ id ∈ Entries.names results.named, id.toList <+: '#' :: after) :
    results.resolve template = String.ofList (replaceAll results.named 0 template.toList) ∧
      '#' ∉ (results.resolve template).toList ∧
      ∀ other : Results, other.entries.Perm results.entries →
        other.resolve template = results.resolve template := by
  have hwoven := woven_of_marks h.ids template.toList hmarks
  have hresolve := putsIn_resolveText h results.nodup_named
  refine ⟨?_, ?_, fun other hperm ↦ ?_⟩
  · rw [resolve_eq, hwoven.eq_of_putsIn hresolve (putsIn_replaceAll h results.nodup_named)]
  · rw [resolve_eq, String.toList_ofList]
    exact hwoven.notMem_of_putsIn h hresolve
  · have hnamed : other.named.Perm results.named := hperm.filter _
    have hother := (putsIn_resolveText (h.perm hnamed) other.nodup_named).perm hnamed
    rw [resolve_eq, resolve_eq, hwoven.eq_of_putsIn hother hresolve]

/-- An output without a mark may look like the rest of an id: here `E2` and `2` come to stand behind
a letter and behind an output. The entry under the empty id has a mark in its output. -/
theorem resolve_eq_replaceAll_adjoining :
    let results := ofList [("#E2", "E2"), ("", "#E1"), ("#E1", "2")]
    let template := "E#E1#E2#E1."
    Unmixed results.named ∧ results.resolve template = "E2E22." ∧
      results.resolve template = String.ofList (replaceAll results.named 0 template.toList) ∧
      '#' ∉ (results.resolve template).toList ∧
      (ofList [("#E1", "2"), ("#E2", "E2"), ("", "#E1")]).resolve template =
        results.resolve template := by
  intro results template
  have hunmixed : Unmixed results.named :=
    { ids := by
        have hnames : Entries.names results.named = ["#E2", "#E1"] := by decide +kernel
        simp only [hnames, List.forall_mem_cons, List.not_mem_nil, false_imp_iff, implies_true,
          and_true]
        exact ⟨isStepId_two, isStepId_one⟩
      apart := by decide +kernel
      outputs := by decide +kernel }
  have htails : ∀ tail ∈ template.toList.tails, tail.head? = some '#' →
      ∃ id ∈ Entries.names results.named, id.toList <+: tail := by decide +kernel
  obtain ⟨honce, hmark, horder⟩ := resolve_eq_replaceAll hunmixed fun before after htext ↦
    htails ('#' :: after) ((List.mem_tails _ _).mpr ⟨before, htext.symm⟩) rfl
  exact ⟨hunmixed, by decide +kernel, honce, hmark, horder _ (by decide +kernel)⟩

end Errand.Results
