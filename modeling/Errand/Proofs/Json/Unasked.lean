import Errand.Proofs.Json.Decoding
import Errand.Proofs.Json.Numbers

/-!
# Fields that nobody asks for

Every value that was written is read, whatever numbers are in it (`reads_write`,
`reads_writePretty`). A number that is not whole may be read as another one, or as none. Who does
not ask for a value does not notice: to skip it meets no flaw. So an object gives the value of a
field that is asked for, whatever other fields stand around this one (`decodeText_required`).
-/

set_option autoImplicit false

namespace Errand.Json

/-! ### Written values as they are read -/

/-- What a number is read as that was written; none if this is beyond all numbers. -/
def Number.reread (n : Number) : Option Number :=
  match readNumber (writeNumber n) with
  | .ok (number, _) => number.value
  | .error _ => none

/-- A written number is read. -/
theorem exists_isNumber_writeNumber (n : Number) :
    ∃ number, IsNumber (writeNumber n) number ∧ number.value = n.reread := by
  obtain ⟨number, hnumber⟩ := (isNumberText_writeNumber n).isNumber
  have hends : EndsNumber [] := by simp [EndsNumber]
  have hread := hnumber.read hends
  rw [List.append_nil] at hread
  exact ⟨number, hnumber, by rw [Number.reread, hread]⟩

namespace Source

mutual

/-- A value as it is read after it was written. -/
def ofWritten : Json → Source
  | .null => .null
  | .bool b => .bool b
  | .num n => .num n.reread
  | .str s => .str { decoded := .ok s }
  | .arr items => .arr (ofWrittenItems items) none
  | .obj fields => .obj (ofWrittenFields fields) none

/-- Items as they are read after they were written. -/
def ofWrittenItems : List Json → List Source
  | [] => []
  | item :: rest => ofWritten item :: ofWrittenItems rest

/-- Fields as they are read after they were written. -/
def ofWrittenFields : List (String × Json) → List (Literal × Source)
  | [] => []
  | (key, value) :: rest => ({ decoded := .ok key }, ofWritten value) :: ofWrittenFields rest

end

mutual

/-- To skip a value that was written meets no flaw. -/
theorem skipFlaw_ofWritten : (value : Json) → (ofWritten value).skipFlaw = none
  | .null | .bool _ | .num _ | .str _ => rfl
  | .arr items => by rw [ofWritten, skipFlaw, skipItems_ofWritten items, Option.or_none]
  | .obj fields => by rw [ofWritten, skipFlaw, skipFields_ofWritten fields, Option.or_none]

theorem skipItems_ofWritten : (items : List Json) → skipItems (ofWrittenItems items) = none
  | [] => rfl
  | item :: rest => by
    rw [ofWrittenItems, skipItems, skipFlaw_ofWritten item, skipItems_ofWritten rest,
      Option.or_none]

theorem skipFields_ofWritten : (fields : List (String × Json)) →
    skipFields (ofWrittenFields fields) = none
  | [] => rfl
  | (_, value) :: rest => by
    rw [ofWrittenFields, skipFields, skipFlaw_ofWritten value, skipFields_ofWritten rest]
    rfl

end

end Source

/-- A piece of a value as it is read after it was written. -/
def Piece.written : Piece → Source.Part
  | .value v => .value (.ofWritten v)
  | .items list => .items (Source.ofWrittenItems list)
  | .fields list => .fields (Source.ofWrittenFields list)

/-- What follows the grammar is read. -/
theorem followsGrammar_reads : FollowsGrammar fun text piece ↦ Reads text piece.written where
  null := .null
  yes := .yes
  no := .no
  number n := by
    obtain ⟨number, hnumber, hvalue⟩ := exists_isNumber_writeNumber n
    have hreads := Reads.number hnumber
    rwa [hvalue] at hreads
  str hs := .str hs.isLiteral
  emptyArr hblank := .emptyArr hblank
  arr hbefore hitems := .arr hbefore hitems
  emptyObj hblank := .emptyObj hblank
  obj hbefore hfields := .obj hbefore hfields
  item hafter hv := .item hafter hv
  itemsCons hafter hbefore hv hitems := .itemsCons hafter hbefore hv hitems
  field hkey hbetween hbefore hafter hv := .field hkey.isLiteral hbetween hbefore hafter hv
  fieldsCons hkey hbetween hbefore hafter hgap hv hfields :=
    .fieldsCons hkey.isLiteral hbetween hbefore hafter hgap hv hfields

theorem reads_write (v : Json) : Reads (write v) (.value (.ofWritten v)) :=
  followsGrammar_reads.write v

theorem reads_writePretty (level : Nat) (v : Json) :
    Reads (writePretty level v) (.value (.ofWritten v)) :=
  followsGrammar_reads.writePretty level v

/-! ### Objects with a field that is asked for -/

/-- Whether an entry of an object has another name than the field that is asked for, and is skipped
without a flaw. -/
def IsUnasked (key : String) (entry : Literal × Source) : Prop :=
  ∃ name, entry.1.decoded = .ok name ∧ name ≠ key ∧ entry.2.skipFlaw = none

section Unasked

variable {α : Type} {key : String} {front back : List (Literal × Source)}

theorem findEntry_of_unasked (hfront : ∀ entry ∈ front, IsUnasked key entry) (position : Nat)
    (rest : List (Literal × Source)) :
    findEntry key position (front ++ rest) = findEntry key (position + front.length) rest := by
  induction front generalizing position with
  | nil => rfl
  | cons entry front ih =>
    obtain ⟨⟨name, hname, hne, -⟩, hfront⟩ := List.forall_mem_cons.mp hfront
    simp only [List.cons_append, findEntry, hname, hne, if_false, ih hfront, List.length_cons]
    congr 1
    omega

theorem entryFault_of_unasked (hfront : ∀ entry ∈ front, IsUnasked key entry) (seen : List String)
    (position : Nat) (ending : Option Flaw) (rest : List (Literal × Source)) :
    entryFault [key] seen position ending (front ++ rest) =
      entryFault [key] seen (position + front.length) ending rest := by
  induction front generalizing position with
  | nil => rfl
  | cons entry front ih =>
    obtain ⟨⟨name, hname, hne, hskip⟩, hfront⟩ := List.forall_mem_cons.mp hfront
    have hunknown : [key].contains name = false := by simpa using hne
    simp only [List.cons_append, entryFault, hname, hunknown, hskip, ih hfront, List.length_cons]
    rw [if_neg Bool.false_ne_true]
    congr 1
    omega

/-- An object gives the value of the one field that is asked for. -/
theorem decoder_of_unasked {decoder : Decoder α} {place : Place} {source : Source} {a : α}
    (name : String) (hdepth : place.depth < Source.maxDepth)
    (hfront : ∀ entry ∈ front, IsUnasked key entry) (hback : ∀ entry ∈ back, IsUnasked key entry)
    (ha : decoder place.deeper source = .ok a) :
    ((Fields.done id).and (.required key decoder)).decoder name place
      (.obj (front ++ ({ decoded := .ok key }, source) :: back) none) = .ok a := by
  have hentry : findEntry key 0 (front ++ ({ decoded := .ok key }, source) :: back) =
      some (0 + front.length, source) := by
    rw [findEntry_of_unasked hfront, findEntry]
    exact if_pos rfl
  have hfault : entryFault [key] [] 0 none
      (front ++ ({ decoded := .ok key }, source) :: back) = none := by
    have hknown : [key].contains key = true := by simp
    have hrest := entryFault_of_unasked hback [key] (0 + front.length + 1) none []
    rw [List.append_nil] at hrest
    rw [entryFault_of_unasked hfront, entryFault]
    simp only [hknown, if_true, List.contains_nil, hrest]
    rfl
  simp only [Fields.decoder, Place.enter_of_lt hdepth, Fields.and, Fields.done, Fields.required,
    hentry, Fields.atEntry, ha, Except.mapError, Checked.both, List.nil_append, hfault, bind,
    Except.bind]
  rfl

end Unasked

theorem ofWrittenFields_append (front back : List (String × Json)) :
    Source.ofWrittenFields (front ++ back) =
      Source.ofWrittenFields front ++ Source.ofWrittenFields back := by
  induction front with
  | nil => rfl
  | cons field front ih =>
    simp only [List.cons_append, Source.ofWrittenFields, ih]

/-- Written fields with other names are not noticed. -/
theorem isUnasked_ofWritten {key : String} {fields : List (String × Json)}
    (h : key ∉ Entries.names fields) :
    ∀ entry ∈ Source.ofWrittenFields fields, IsUnasked key entry := by
  induction fields with
  | nil => simp [Source.ofWrittenFields]
  | cons field fields ih =>
    obtain ⟨name, value⟩ := field
    simp only [Entries.names, List.map_cons, List.mem_cons, not_or] at h ih
    rw [Source.ofWrittenFields, List.forall_mem_cons]
    exact ⟨⟨name, rfl, Ne.symm h.1, Source.skipFlaw_ofWritten value⟩, ih h.2⟩

/-- The text of an object, in either layout, gives the value of the one field that is asked for,
whatever other fields stand around it. -/
theorem decodeText_required {α : Type} {decoder : Decoder α} {key : String}
    {front back : List (String × Json)} {value : Json} {a : α} {text : List Char} (name : String)
    (hfront : key ∉ Entries.names front) (hback : key ∉ Entries.names back)
    (ha : decoder { fromText := true, depth := 1 } (.ofWritten value) = .ok a)
    (htext : text = write (.obj (front ++ (key, value) :: back)) ∨
      text = writePretty 0 (.obj (front ++ (key, value) :: back))) :
    decodeText (((Fields.done id).and (.required key decoder)).decoder name) text = .ok a := by
  have hreads : Reads text (.value (.ofWritten (.obj (front ++ (key, value) :: back)))) := by
    rcases htext with rfl | rfl
    · exact reads_write _
    · exact reads_writePretty 0 _
  have hdocument := hreads.readDocument isBlank_nil isBlank_nil
  rw [List.nil_append, List.append_nil] at hdocument
  have hobject : Source.ofWritten (.obj (front ++ (key, value) :: back)) =
      .obj (Source.ofWrittenFields front ++
        ({ decoded := .ok key }, .ofWritten value) :: Source.ofWrittenFields back) none := by
    rw [Source.ofWritten, ofWrittenFields_append, Source.ofWrittenFields]
  have hdecoder : ((Fields.done id).and (.required key decoder)).decoder name { fromText := true }
      (.ofWritten (.obj (front ++ (key, value) :: back))) = .ok a := by
    rw [hobject]
    exact decoder_of_unasked name (by decide) (isUnasked_ofWritten hfront)
      (isUnasked_ofWritten hback) ha
  rw [decodeText, hdocument]
  simp only [hdecoder]

end Errand.Json
