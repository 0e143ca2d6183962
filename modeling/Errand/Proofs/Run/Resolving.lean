import Errand.Json.Reader
import Errand.Proofs.Plan.Shape
import Errand.Proofs.Text.Replacement
import Errand.Results

/-!
# Putting outputs into text

Outputs are put into a text one after another, each by replacing its step id. A character that is in
no step id separates the text: outputs are put into the two sides of it on their own
(`resolveText_append_cons`). JSON has such characters between all of its parts. A text without a
mark stays as it is, and a step id becomes its output (`resolveText_hole`): no other id is found in
it unless it begins with that id, and no id is found in the output.
-/

set_option autoImplicit false

namespace Errand

/-- The only mark of a step id stands at its start. -/
theorem Plan.IsStepId.exists_mark {id : List Char} (h : IsStepId id) :
    ∃ rest, id = '#' :: rest ∧ '#' ∉ rest := by
  obtain ⟨digits, -, hdigits, rfl⟩ := h
  refine ⟨'E' :: digits, rfl, fun hmem ↦ ?_⟩
  rcases List.mem_cons.mp hmem with heq | hmem
  · exact absurd heq (by decide)
  · exact absurd (hdigits '#' hmem) (by decide +kernel)

theorem Plan.IsStepId.head? {id : List Char} (h : IsStepId id) : id.head? = some '#' := by
  obtain ⟨rest, rfl, -⟩ := h.exists_mark
  rfl

theorem isStepId_one : Plan.IsStepId "#E1".toList :=
  ⟨['1'], by decide, List.all_eq_true.mp (by decide), rfl⟩

theorem isStepId_two : Plan.IsStepId "#E2".toList :=
  ⟨['2'], by decide, List.all_eq_true.mp (by decide), rfl⟩

open Plan (IsStepId)

namespace Results

/-- A text with ids replaced by outputs, one entry after another. -/
def resolveText (entries : List (String × String)) (text : List Char) : List Char :=
  entries.foldl substitute text

/-- Entries under step ids whose outputs have none of these ids in them. -/
structure IsClean (entries : List (String × String)) : Prop where
  /-- The ids are step ids. -/
  ids : ∀ id ∈ Entries.names entries, IsStepId id.toList
  /-- No output has one of them in it. -/
  outputs : ∀ entry ∈ entries, ∀ id ∈ Entries.names entries,
    Text.contains id.toList entry.2.toList = false

theorem IsClean.tail {entry : String × String} {entries : List (String × String)}
    (hclean : IsClean (entry :: entries)) : IsClean entries where
  ids := fun id hid ↦ hclean.ids id (List.mem_cons_of_mem entry.1 hid)
  outputs := fun other hother id hid ↦
    hclean.outputs other (List.mem_cons_of_mem entry hother) id (List.mem_cons_of_mem entry.1 hid)

/-- A character that stands in no step id. -/
def Separates (c : Char) : Prop :=
  c ≠ '#' ∧ c ≠ 'E' ∧ Text.isDigit c = false

theorem Separates.notMem {c : Char} (hc : Separates c) {id : List Char} (hid : IsStepId id) :
    c ∉ id := by
  obtain ⟨digits, -, hdigits, rfl⟩ := hid
  intro hmem
  rcases List.mem_cons.mp hmem with rfl | hmem
  · exact hc.1 rfl
  · rcases List.mem_cons.mp hmem with rfl | hmem
    · exact hc.2.1 rfl
    · simpa [hc.2.2] using hdigits c hmem

theorem separates_of_isSpace {c : Char} (hc : Json.isSpace c) : Separates c := by
  simp only [Json.isSpace, Bool.or_eq_true, decide_eq_true_eq] at hc
  unfold Separates
  rcases hc with ((rfl | rfl) | rfl) | rfl <;> decide +kernel

/-- A step id is found in another only if it begins it, since it has no mark after its first. -/
theorem contains_of_not_isPrefix {id hole : List Char} (hid : IsStepId id) (hhole : IsStepId hole)
    (h : ¬ id <+: hole) : Text.contains id hole = false := by
  obtain ⟨rest, rfl, hmark⟩ := hhole.exists_mark
  have hrest : Text.contains id rest = false :=
    Text.contains_eq_false_of_notMem (List.mem_of_mem_head? hid.head?) hmark
  rw [Text.contains, hrest, Bool.or_false, Bool.eq_false_iff]
  exact fun hprefix ↦ h (List.isPrefixOf_iff_prefix.mp hprefix)

/-! ### One entry -/

section Entry

variable {entry : String × String} {front : List Char}

/-- An output is put in behind a text without a mark. -/
theorem substitute_append_of_notMem (hentry : IsStepId entry.1.toList) (hmark : '#' ∉ front)
    (text : List Char) : substitute (front ++ text) entry = front ++ substitute text entry :=
  Text.replace_append_of_notMem hentry.head? hmark

/-- An id at the start of a text becomes its output. -/
theorem substitute_append_self (hentry : IsStepId entry.1.toList) (text : List Char) :
    substitute (entry.1.toList ++ text) entry = entry.2.toList ++ substitute text entry := by
  refine Text.replace_append (fun hnil ↦ ?_) text
  simpa [hnil] using hentry.head?

/-- An id at the start of a text is left if the id of the entry does not begin there. -/
theorem substitute_append_of_not_isPrefix {id text : List Char} (hentry : IsStepId entry.1.toList)
    (hid : IsStepId id) (h : ¬ entry.1.toList <+: id ++ text) :
    substitute (id ++ text) entry = id ++ substitute text entry := by
  obtain ⟨rest, rfl, hmark⟩ := hid.exists_mark
  have hrest := substitute_append_of_notMem hentry hmark text
  rw [List.cons_append] at h ⊢
  rw [substitute, Text.replace_cons_of_not_isPrefix h]
  exact congrArg ('#' :: ·) hrest

end Entry

/-! ### One entry after another -/

section Entries

variable {entries : List (String × String)} {text front back blank : List Char} {c : Char}

/-- A text that has no id in it is left as it is. -/
theorem resolveText_of_contains
    (h : ∀ id ∈ Entries.names entries, Text.contains id.toList text = false) :
    resolveText entries text = text := by
  induction entries with
  | nil => rfl
  | cons entry entries ih =>
    have hentry : substitute text entry = text :=
      Text.replace_of_contains (h entry.1 List.mem_cons_self)
    rw [resolveText, List.foldl_cons, hentry]
    exact ih fun id hid ↦ h id (List.mem_cons_of_mem entry.1 hid)

/-- A text without a mark has no id in it. -/
theorem resolveText_of_notMem (hids : ∀ id ∈ Entries.names entries, IsStepId id.toList)
    (hmark : '#' ∉ text) : resolveText entries text = text := by
  refine resolveText_of_contains fun id hid ↦ ?_
  exact Text.contains_eq_false_of_notMem (List.mem_of_mem_head? (hids id hid).head?) hmark

/-- Outputs are put in behind a text without a mark. -/
theorem resolveText_append_of_notMem (hids : ∀ id ∈ Entries.names entries, IsStepId id.toList)
    (hmark : '#' ∉ front) :
    resolveText entries (front ++ text) = front ++ resolveText entries text := by
  induction entries generalizing text with
  | nil => rfl
  | cons entry entries ih =>
    have hentry := substitute_append_of_notMem (hids entry.1 List.mem_cons_self) hmark text
    simp only [resolveText, List.foldl_cons] at ih ⊢
    rw [hentry, ih fun id hid ↦ hids id (List.mem_cons_of_mem entry.1 hid)]

/-- Outputs are put into the two sides of a separating character on their own. -/
theorem resolveText_append_cons (hids : ∀ id ∈ Entries.names entries, IsStepId id.toList)
    (hc : Separates c) :
    resolveText entries (front ++ c :: back) =
      resolveText entries front ++ c :: resolveText entries back := by
  induction entries generalizing front back with
  | nil => rfl
  | cons entry entries ih =>
    have hentry : substitute (front ++ c :: back) entry =
        substitute front entry ++ c :: substitute back entry :=
      Text.replace_append_cons (hc.notMem (hids entry.1 List.mem_cons_self))
    simp only [resolveText, List.foldl_cons] at ih ⊢
    rw [hentry, ih fun id hid ↦ hids id (List.mem_cons_of_mem entry.1 hid)]

theorem resolveText_nil (hids : ∀ id ∈ Entries.names entries, IsStepId id.toList) :
    resolveText entries [] = [] :=
  resolveText_of_notMem hids List.not_mem_nil

theorem resolveText_blank_append (hids : ∀ id ∈ Entries.names entries, IsStepId id.toList)
    (hblank : ∀ c ∈ blank, Separates c) :
    resolveText entries (blank ++ text) = blank ++ resolveText entries text :=
  resolveText_append_of_notMem hids fun hmark ↦ (hblank '#' hmark).1 rfl

theorem resolveText_cons (hids : ∀ id ∈ Entries.names entries, IsStepId id.toList)
    (hc : Separates c) : resolveText entries (c :: back) = c :: resolveText entries back :=
  resolveText_blank_append hids (List.forall_mem_singleton.mpr hc)

theorem resolveText_append_blank (hids : ∀ id ∈ Entries.names entries, IsStepId id.toList)
    (hblank : ∀ c ∈ blank, Separates c) :
    resolveText entries (text ++ blank) = resolveText entries text ++ blank := by
  cases blank with
  | nil => simp
  | cons c blank =>
    have hrest := @resolveText_blank_append entries [] blank hids fun d hd ↦
      hblank d (List.mem_cons_of_mem c hd)
    rw [resolveText_nil hids, List.append_nil] at hrest
    rw [resolveText_append_cons hids (hblank c List.mem_cons_self), hrest]

/-- A step id becomes its output, if it has one, and stays as it is otherwise. The induction is on
the entries: those before its own do not occur in it, those after it do not occur in the output. -/
theorem resolveText_hole {id : String} (hclean : IsClean entries) (hid : IsStepId id.toList)
    (hown : ∀ other ∈ Entries.names entries, other.toList <+: id.toList → other = id) :
    resolveText entries id.toList = ((entries.lookup id).getD id).toList := by
  induction entries with
  | nil => rfl
  | cons entry entries ih =>
    obtain ⟨name, output⟩ := entry
    have hname := hclean.ids name List.mem_cons_self
    rw [resolveText, List.foldl_cons]
    by_cases heq : name = id
    · subst heq
      have hself : substitute name.toList (name, output) = output.toList := by
        obtain ⟨digits, -, -, hdigits⟩ := hname
        exact Text.replace_self (by simp [hdigits])
      rw [hself, List.lookup_cons_self]
      exact resolveText_of_contains fun other hother ↦
        hclean.outputs (name, output) List.mem_cons_self other (List.mem_cons_of_mem name hother)
    · have hother : substitute id.toList (name, output) = id.toList :=
        Text.replace_of_contains (contains_of_not_isPrefix hname hid fun hprefix ↦
          heq (hown name List.mem_cons_self hprefix))
      have hbeq : (id == name) = false := beq_false_of_ne (Ne.symm heq)
      rw [hother, List.lookup_cons, hbeq]
      exact ih hclean.tail fun other hother' ↦ hown other (List.mem_cons_of_mem name hother')

end Entries

end Results

end Errand
