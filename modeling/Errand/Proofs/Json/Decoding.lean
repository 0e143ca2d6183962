import Errand.Json.Decode
import Errand.Proofs.Json.Spelling

/-!
# Decoding what was written

A decoder of a shape undoes an encoder of that shape. For arrays, for objects with any keys and for
objects with known fields this is the case if it is so for the parts, and if the text is not nested
too deeply. `decodeText_write` puts the reader in front: to decode the text of a value is to decode
the value.
-/

set_option autoImplicit false

namespace Errand.Json

variable {α β γ : Type}

/-- To decode the text of a value is to decode the value. -/
theorem decodeText_write (decoder : Decoder α) {value : Json} (h : IsWhole value) :
    decodeText decoder (write value) = decoder { fromText := true } (.ofJson value) := by
  rw [decodeText, readDocument_write h]
  cases decoder { fromText := true } (.ofJson value) <;> rfl

/-- A container may be entered where the nesting has not reached its limit. -/
theorem Place.enter_of_lt {place : Place} (h : place.depth < Source.maxDepth) :
    place.enter = .ok () := by
  unfold Place.enter
  split
  · simp [Source.enter, h, orFlaw]
  · rfl

namespace Decode

/-- An array is decoded if its items are. -/
theorem list_arr_of_forall₂ (decoder : Decoder α) {place : Place} {values : List Json}
    {list : List α} (hdepth : place.depth < Source.maxDepth)
    (hitem :
      List.Forall₂ (fun value a ↦ decoder place.deeper (.ofJson value) = .ok a) values list) :
    Decode.list decoder place (.ofJson (.arr values)) = .ok list := by
  have hitems : items decoder place.deeper (Source.ofItems values) = .ok list := by
    induction hitem with
    | nil => rfl
    | cons ha _ ih =>
      simp only [Source.ofItems, items, ha, ih, bind, Except.bind]
      rfl
  simp only [Decode.list, Source.ofJson, Place.enter_of_lt hdepth, hitems, bind, Except.bind]
  rfl

theorem list_arr (decoder : Decoder α) (encode : α → Json) {place : Place} (list : List α)
    (hdepth : place.depth < Source.maxDepth)
    (hitem : ∀ a, decoder place.deeper (.ofJson (encode a)) = .ok a) :
    Decode.list decoder place (.ofJson (.arr (list.map encode))) = .ok list :=
  list_arr_of_forall₂ decoder hdepth
    (List.forall₂_map_left_iff.mpr (List.forall₂_same.mpr fun a _ ↦ hitem a))

/-- An object with any keys is decoded if its values are. -/
theorem map_obj (decoder : Decoder α) (encode : α → Json) {place : Place}
    (fields : List (String × α)) (hdepth : place.depth < Source.maxDepth)
    (hvalue : ∀ a, decoder place.deeper (.ofJson (encode a)) = .ok a) :
    map decoder place (.ofJson (.obj (fields.map fun (key, a) ↦ (key, encode a)))) =
      .ok fields := by
  have hentries : entries decoder place.deeper
      (Source.ofFields (fields.map fun (key, a) ↦ (key, encode a))) = .ok fields := by
    induction fields with
    | nil => rfl
    | cons field fields ih =>
      simp only [List.map_cons, Source.ofFields, entries, orFlaw, hvalue, ih, bind, Except.bind]
      rfl
  simp only [map, Source.ofJson, Place.enter_of_lt hdepth, hentries, bind, Except.bind]
  rfl

end Decode

/-! ### Objects with known fields -/

theorem findEntry_ofFields (name : String) (position : Nat) (object : List (String × Json)) :
    match object.lookup name with
    | some value => ∃ found, findEntry name position (Source.ofFields object) =
        some (found, .ofJson value)
    | none => findEntry name position (Source.ofFields object) = none := by
  induction object generalizing position with
  | nil => rfl
  | cons field object ih =>
    obtain ⟨key, value⟩ := field
    by_cases hkey : key = name
    · subst hkey
      simp [Source.ofFields, findEntry]
    · have hlookup : (name == key) = false := by simpa using Ne.symm hkey
      simpa [Source.ofFields, findEntry, hkey, List.lookup_cons, hlookup] using ih (position + 1)

mutual

/-- To skip a value meets no flaw. -/
theorem Source.skipFlaw_ofJson : (value : Json) → (Source.ofJson value).skipFlaw = none
  | .null | .bool _ | .num _ | .str _ => rfl
  | .arr items => by rw [ofJson, skipFlaw, skipItems_ofItems items, Option.or_none]
  | .obj fields => by rw [ofJson, skipFlaw, skipFields_ofFields fields, Option.or_none]

theorem Source.skipItems_ofItems : (items : List Json) →
    Source.skipItems (Source.ofItems items) = none
  | [] => rfl
  | item :: rest => by
    rw [ofItems, skipItems, skipFlaw_ofJson item, skipItems_ofItems rest, Option.or_none]

theorem Source.skipFields_ofFields : (fields : List (String × Json)) →
    Source.skipFields (Source.ofFields fields) = none
  | [] => rfl
  | (_, value) :: rest => by
    rw [ofFields, skipFields, skipFlaw_ofJson value, skipFields_ofFields rest]
    rfl

end

/-- No entry is at fault if no name stands twice, whatever stands under names that nobody asks for.
-/
theorem entryFault_ofFields {known seen : List String} (position : Nat)
    {object : List (String × Json)} (hnodup : (Entries.names object).Nodup)
    (hseen : ∀ name ∈ Entries.names object, name ∉ seen) :
    entryFault known seen position none (Source.ofFields object) = none := by
  induction object generalizing seen position with
  | nil => rfl
  | cons field object ih =>
    obtain ⟨key, value⟩ := field
    simp only [Entries.names, List.map_cons, List.nodup_cons, List.mem_cons, forall_eq_or_imp]
      at hnodup hseen ih
    by_cases hknown : key ∈ known
    · have hrest := @ih (key :: seen) (position + 1) hnodup.2 (by
        intro name hname
        have hne : name ≠ key := by
          rintro rfl
          exact hnodup.1 hname
        simpa [hne] using hseen.2 name hname)
      simpa [Source.ofFields, entryFault, hknown, hseen.1] using hrest
    · simpa [Source.ofFields, entryFault, hknown, Source.skipFlaw_ofJson] using
        ih (position + 1) hnodup.2 hseen.2

/-- Where the fields of an object are found, in whatever order they stand. -/
def Shows (object : List (String × Json)) (look : String → Found) : Prop :=
  ∀ name, match object.lookup name with
    | some value => ∃ position, look name = .entry position (.ofJson value)
    | none => ∃ position, look name = .absent position

/-- Where the entries of an object are found. -/
def foundIn (object : List (String × Json)) (name : String) : Found :=
  match findEntry name 0 (Source.ofFields object) with
  | some (position, value) => .entry position value
  | none => .absent ((Source.ofFields object).length + 1)

theorem shows_foundIn (object : List (String × Json)) : Shows object (foundIn object) := by
  intro name
  have hentry := findEntry_ofFields name 0 object
  cases hlookup : object.lookup name with
  | none =>
    rw [hlookup] at hentry
    exact ⟨_, by rw [foundIn, hentry]⟩
  | some value =>
    rw [hlookup] at hentry
    obtain ⟨found, hentry⟩ := hentry
    exact ⟨found, by rw [foundIn, hentry]⟩

/-- Whether fields decode an object as a result. -/
def Fields.Give (fields : Fields α) (place : Place) (object : List (String × Json)) (a : α) :
    Prop :=
  ∀ look, Shows object look → fields.decode place look = .ok a

namespace Fields.Give

variable {place : Place} {object : List (String × Json)} {name : String}

theorem done (a : α) : (Fields.done a).Give place object a :=
  fun _ _ ↦ rfl

theorem and {f : Fields (α → β)} {x : Fields α} {g : α → β} {a : α} (hf : f.Give place object g)
    (hx : x.Give place object a) : (f.and x).Give place object (g a) := by
  intro look hlook
  simp only [Fields.and, hf look hlook, hx look hlook, Checked.both]

theorem required {decoder : Decoder α} {value : Json} {a : α}
    (hlookup : object.lookup name = some value) (ha : decoder place (.ofJson value) = .ok a) :
    (Fields.required name decoder).Give place object a := by
  intro look hlook
  have hname := hlook name
  rw [hlookup] at hname
  obtain ⟨position, hfound⟩ := hname
  simp only [Fields.required, hfound, atEntry, ha, Except.mapError]

theorem withDefault {decoder : Decoder α} {value : Json} {a default : α}
    (hlookup : object.lookup name = some value) (ha : decoder place (.ofJson value) = .ok a) :
    (Fields.withDefault name decoder default).Give place object a := by
  intro look hlook
  have hname := hlook name
  rw [hlookup] at hname
  obtain ⟨position, hfound⟩ := hname
  simp only [Fields.withDefault, hfound, atEntry, ha, Except.mapError]

theorem default {decoder : Decoder α} {default : α} (hlookup : object.lookup name = none) :
    (Fields.withDefault name decoder default).Give place object default := by
  intro look hlook
  have hname := hlook name
  rw [hlookup] at hname
  obtain ⟨position, hfound⟩ := hname
  simp only [Fields.withDefault, hfound]

theorem optional {decoder : Decoder α} {value : Json} {option : Option α}
    (hlookup : object.lookup name = some value)
    (ha : Decode.option decoder place (.ofJson value) = .ok option) :
    (Fields.optional name decoder).Give place object option := by
  intro look hlook
  have hname := hlook name
  rw [hlookup] at hname
  obtain ⟨position, hfound⟩ := hname
  simp only [Fields.optional, hfound, atEntry, ha, Except.mapError]

theorem absent {decoder : Decoder α} (hlookup : object.lookup name = none) :
    (Fields.optional name decoder).Give place object none := by
  intro look hlook
  have hname := hlook name
  rw [hlookup] at hname
  obtain ⟨position, hfound⟩ := hname
  simp only [Fields.optional, hfound]

theorem nullable {decoder : Decoder α} {encode : α → Json} {option : Option α}
    (hlookup : object.lookup name = option.map encode)
    (ha : ∀ a, Decode.option decoder place (.ofJson (encode a)) = .ok (some a)) :
    (Fields.nullable name decoder).Give place object option := by
  cases option with
  | none => exact .default hlookup
  | some a => exact .withDefault hlookup (ha a)

end Fields.Give

/-- What comes of an object whose fields were decoded and whose entries were looked through. -/
def concluded (outcome : Checked α) (fault : Option Located) : Except DecodeError α :=
  match outcome, fault with
  | .ok a, none => .ok a
  | .error e, none => .error e.2
  | .ok _, some e => .error e.2
  | .error e, some e' => .error (earlier e e').2

/-- What fields have read when they are decoded: nothing, or a field more. -/
theorem Fields.and_eq_ok {f : Fields (α → β)} {x : Fields α} {place : Place}
    {look : String → Found} {result : β} (h : (f.and x).decode place look = .ok result) :
    ∃ g a, f.decode place look = .ok g ∧ x.decode place look = .ok a ∧ g a = result := by
  simp only [Fields.and] at h
  cases hf : f.decode place look with
  | error e =>
    cases hx : x.decode place look <;> simp [hf, hx, Checked.both] at h
  | ok g =>
    cases hx : x.decode place look with
    | error e => simp [hf, hx, Checked.both] at h
    | ok a =>
      simp only [hf, hx, Checked.both, Except.ok.injEq] at h
      exact ⟨g, a, rfl, rfl, h⟩

/-- The fields of an object that was decoded were found in it. -/
theorem Fields.decode_of_decoder_obj {fields : Fields α} {name : String} {place : Place}
    {object : List (String × Json)} {a : α}
    (h : fields.decoder name place (.ofJson (.obj object)) = .ok a) :
    fields.decode place.deeper (foundIn object) = .ok a := by
  change (place.enter >>= fun _ ↦ concluded (fields.decode place.deeper (foundIn object))
    (entryFault fields.names [] 0 none (Source.ofFields object))) = _ at h
  cases hentered : place.enter with
  | error e =>
    rw [hentered] at h
    cases h
  | ok _ =>
    rw [hentered] at h
    change concluded _ _ = _ at h
    cases hdecode : fields.decode place.deeper (foundIn object) with
    | error e =>
      rw [hdecode] at h
      cases hfault : entryFault fields.names [] 0 none (Source.ofFields object) <;>
        rw [hfault] at h <;> cases h
    | ok b =>
      rw [hdecode] at h
      cases hfault : entryFault fields.names [] 0 none (Source.ofFields object) <;>
        rw [hfault] at h <;> cases h
      rfl

/-- An object with known fields, and maybe others, is decoded if its known fields are. -/
theorem Fields.decoder_obj {fields : Fields α} {place : Place} {object : List (String × Json)}
    {a : α} (name : String) (hdepth : place.depth < Source.maxDepth)
    (hnodup : (Entries.names object).Nodup) (hgive : fields.Give place.deeper object a) :
    fields.decoder name place (.ofJson (.obj object)) = .ok a := by
  have hfault : entryFault fields.names [] 0 none (Source.ofFields object) = none :=
    entryFault_ofFields 0 hnodup (by simp)
  have hdecode : fields.decode place.deeper (foundIn object) = .ok a :=
    hgive _ (shows_foundIn object)
  change (place.enter >>= fun _ ↦ concluded (fields.decode place.deeper (foundIn object))
    (entryFault fields.names [] 0 none (Source.ofFields object))) = _
  simp only [Place.enter_of_lt hdepth, hdecode, hfault]
  rfl

end Errand.Json
