import Errand.Gateway.Body
import Errand.Proofs.Json.Decoding

/-!
# Bodies that differ in a flag

A request for a run says by a flag whether the client follows the progress. `Source.Flips` relates
two bodies that are the same except for one truth value: under a name, wherever it stands in an
object and whatever stands beside it, or at an index of an array. Whoever decodes them finds the
same fault or the same value except for the flag (`Abreast`): the flag is a field of the shape, and
the other fields are decoded without looking at it (`Fields.Overlooks`). A flag that is given twice
is a fault for either value.

The flag may be left out (`Source.Abridges`). Nothing but the positions of other entries depends on
whether it is there, and the first of two faults stays the first, so a body without the flag is
decoded like the same body with the default of the flag (`Fields.decoder_abridged_entry`).
-/

set_option autoImplicit false

namespace Errand

namespace Json

variable {α β ε : Type} {name : String} {index : Nat} {b b' : Bool}

/-- Whether two sources are the same except for a truth value: that of an entry with a name, or that
of the item at an index. -/
inductive Source.Flips (name : String) (index : Nat) (b b' : Bool) : Source → Source → Prop
  | entry (before after : List (Literal × Source)) {key : Literal} (ending : Option Flaw)
      (hkey : key.decoded = .ok name) :
      Flips name index b b' (.obj (before ++ (key, .bool b) :: after) ending)
        (.obj (before ++ (key, .bool b') :: after) ending)
  | item (before after : List Source) (ending : Option Flaw) (hindex : before.length = index) :
      Flips name index b b' (.arr (before ++ .bool b :: after) ending)
        (.arr (before ++ .bool b' :: after) ending)

/-- Whether a source is another one, but may leave out a truth value: the one entry with a name, or
an item at the end of an array. -/
inductive Source.Abridges (name : String) (index : Nat) (b : Bool) : Source → Source → Prop
  | nothing (source : Source) : Abridges name index b source source
  | entry (before after : List (Literal × Source)) {key : Literal} (ending : Option Flaw)
      (hkey : key.decoded = .ok name)
      (hothers : ∀ entry ∈ before ++ after, entry.1.decoded ≠ .ok name) :
      Abridges name index b (.obj (before ++ after) ending)
        (.obj (before ++ (key, .bool b) :: after) ending)
  | item (before : List Source) (hindex : before.length = index) :
      Abridges name index b (.arr before none) (.arr (before ++ [.bool b]) none)

/-- What comes of two readings that differ in a flag at most: the same fault, or one value of a
shape with either flag. -/
inductive Abreast (shape : (Bool → α) → Prop) (b b' : Bool) : Except ε α → Except ε α → Prop
  | fault (e : ε) : Abreast shape b b' (.error e) (.error e)
  | value {make : Bool → α} (hshape : shape make) :
      Abreast shape b b' (.ok (make b)) (.ok (make b'))

/-! ### Fields that do not look at the flag -/

/-- Where something is found once the entries have been moved. -/
def Found.move (shift : Nat → Nat) : Found → Found
  | .entry position source => .entry (shift position) source
  | .absent position => .absent (shift position)
  | .beyond position fault => .beyond (shift position) fault

/-- A fault of an entry that has been moved. -/
def moved (shift : Nat → Nat) (e : Located) : Located :=
  (shift e.1, e.2)

@[simp] theorem Found.move_id (found : Found) : found.move id = found := by
  cases found <;> rfl

@[simp] theorem mapError_moved_id (outcome : Checked α) :
    outcome.mapError (moved id) = outcome := by
  cases outcome <;> rfl

/-- The earlier of two faults is the same if their order is. -/
theorem earlier_moved {shift : Nat → Nat} (hshift : StrictMono shift) (e e' : Located) :
    earlier (moved shift e) (moved shift e') = moved shift (earlier e e') := by
  simp only [earlier, moved, hshift.lt_iff_lt]
  split <;> rfl

theorem Checked.both_moved {γ : Type} {shift : Nat → Nat} (hshift : StrictMono shift)
    (combine : α → β → γ) (x : Checked α) (y : Checked β) :
    Checked.both combine (x.mapError (moved shift)) (y.mapError (moved shift)) =
      (Checked.both combine x y).mapError (moved shift) := by
  cases x with
  | ok a => cases y <;> rfl
  | error e =>
    cases y with
    | ok b => rfl
    | error e' => exact congrArg Except.error (earlier_moved hshift e e')

/-- Whether fields are decoded without looking under a name, and wherever the entries stand, as long
as their order is the same. -/
def Fields.Overlooks (fields : Fields α) (name : String) : Prop :=
  ∀ place look look' shift, StrictMono shift →
    (∀ other, other ≠ name → look' other = (look other).move shift) →
    fields.decode place look' = (fields.decode place look).mapError (moved shift)

namespace Fields.Overlooks

theorem same {fields : Fields α} (h : fields.Overlooks name) (place : Place)
    {look look' : String → Found} (hlook : ∀ other, other ≠ name → look' other = look other) :
    fields.decode place look' = fields.decode place look := by
  simpa using h place look look' id strictMono_id (by simpa using hlook)

theorem done (a : α) : (Fields.done a).Overlooks name :=
  fun _ _ _ _ _ _ ↦ rfl

theorem and {f : Fields (α → β)} {x : Fields α} (hf : f.Overlooks name) (hx : x.Overlooks name) :
    (f.and x).Overlooks name := by
  intro place look look' shift hshift hlook
  simp only [Fields.and, hf place look look' shift hshift hlook,
    hx place look look' shift hshift hlook]
  exact Checked.both_moved hshift _ _ _

theorem atEntry_moved (decoder : Decoder α) (place : Place) (shift : Nat → Nat) (position : Nat)
    (source : Source) :
    atEntry decoder place (shift position) source =
      (atEntry decoder place position source).mapError (moved shift) := by
  unfold atEntry
  cases decoder place source <;> rfl

theorem required {other : String} (decoder : Decoder α) (hother : other ≠ name) :
    (Fields.required other decoder).Overlooks name := by
  intro place look look' shift hshift hlook
  simp only [Fields.required, hlook other hother]
  cases look other with
  | entry position source => exact atEntry_moved decoder place shift position source
  | absent position => rfl
  | beyond position fault => rfl

theorem withDefault {other : String} (decoder : Decoder α) (value : α) (hother : other ≠ name) :
    (Fields.withDefault other decoder value).Overlooks name := by
  intro place look look' shift hshift hlook
  simp only [Fields.withDefault, hlook other hother]
  cases look other with
  | entry position source => exact atEntry_moved decoder place shift position source
  | absent position => rfl
  | beyond position fault => cases fault <;> rfl

end Fields.Overlooks

/-! ### Entries beside the flag -/

/-- Where an entry stands after a hole has been filled. -/
def skip (hole position : Nat) : Nat :=
  if position < hole then position else position + 1

theorem strictMono_skip (hole : Nat) : StrictMono (skip hole) := by
  intro position position' h
  unfold skip
  split <;> split <;> omega

theorem skip_of_le {hole position : Nat} (h : hole ≤ position) :
    skip hole position = position + 1 :=
  if_neg (Nat.not_lt.mpr h)

theorem findEntry_succ (other : String) {hole position : Nat} (h : hole ≤ position)
    (entries : List (Literal × Source)) :
    findEntry other (position + 1) entries =
      (findEntry other position entries).map (Prod.map (skip hole) id) := by
  induction entries generalizing position with
  | nil => rfl
  | cons entry entries ih =>
    obtain ⟨first, value⟩ := entry
    have hlater := ih (Nat.le_succ_of_le h)
    simp only [findEntry]
    cases first.decoded with
    | error flaw => exact hlater
    | ok found =>
      dsimp only
      split
      · simp [skip_of_le h]
      · exact hlater

/-- An entry under another name is found where it was before a hole in front of it was filled. -/
theorem findEntry_insert {key : Literal} {other : String} (hkey : key.decoded = .ok name)
    (hother : other ≠ name) (value : Source) (before after : List (Literal × Source))
    (position : Nat) :
    findEntry other position (before ++ (key, value) :: after) =
      (findEntry other position (before ++ after)).map
        (Prod.map (skip (position + before.length)) id) := by
  induction before generalizing position with
  | nil => simpa [findEntry, hkey, hother.symm] using findEntry_succ other (Nat.le_refl _) after
  | cons entry before ih =>
    obtain ⟨first, source⟩ := entry
    have hlater := ih (position + 1)
    rw [Nat.add_right_comm, Nat.add_assoc] at hlater
    simp only [List.cons_append, findEntry, List.length_cons]
    cases first.decoded with
    | error flaw => exact hlater
    | ok found =>
      dsimp only
      split
      · simp [skip]
      · exact hlater

/-- An entry under another name is found at the same place, whatever the flag is. -/
theorem findEntry_append_of_ne {key : Literal} {other : String} (hkey : key.decoded = .ok name)
    (hother : other ≠ name) (before after : List (Literal × Source)) (position : Nat) :
    findEntry other position (before ++ (key, .bool b) :: after) =
      findEntry other position (before ++ (key, .bool b') :: after) := by
  rw [findEntry_insert hkey hother, findEntry_insert hkey hother]

/-- Nothing is found under a name that no entry has. -/
theorem findEntry_of_forall_ne {entries : List (Literal × Source)}
    (h : ∀ entry ∈ entries, entry.1.decoded ≠ .ok name) (position : Nat) :
    findEntry name position entries = none := by
  induction entries generalizing position with
  | nil => rfl
  | cons entry entries ih =>
    obtain ⟨hfirst, hrest⟩ := List.forall_mem_cons.mp h
    obtain ⟨first, value⟩ := entry
    simp only [findEntry, ih hrest]
    split
    · next found hfound =>
      have hne : found ≠ name := fun heq ↦ hfirst (heq ▸ hfound)
      simp [hne]
    · rfl

/-- What stands under a name is found if nothing stands under it before. -/
theorem findEntry_append_of_forall_ne {key : Literal} (hkey : key.decoded = .ok name)
    (value : Source) {before : List (Literal × Source)}
    (h : ∀ entry ∈ before, entry.1.decoded ≠ .ok name) (after : List (Literal × Source))
    (position : Nat) :
    findEntry name position (before ++ (key, value) :: after) =
      some (position + before.length, value) := by
  induction before generalizing position with
  | nil => simp [findEntry, hkey]
  | cons entry before ih =>
    obtain ⟨hfirst, hrest⟩ := List.forall_mem_cons.mp h
    obtain ⟨first, source⟩ := entry
    have hlater := ih hrest (position + 1)
    rw [Nat.add_right_comm, Nat.add_assoc] at hlater
    simp only [List.cons_append, findEntry, List.length_cons]
    cases hfound : first.decoded with
    | error flaw => exact hlater
    | ok found =>
      have hne : found ≠ name := fun heq ↦ hfirst (heq ▸ hfound)
      dsimp only
      rw [if_neg hne]
      exact hlater

/-- What stands under a name is found whatever follows it. -/
theorem exists_findEntry_append {before : List (Literal × Source)}
    (h : ∃ entry ∈ before, entry.1.decoded = .ok name) (position : Nat) :
    ∃ found, ∀ after, findEntry name position (before ++ after) = some found := by
  induction before generalizing position with
  | nil => simp at h
  | cons entry before ih =>
    obtain ⟨first, source⟩ := entry
    by_cases hfirst : first.decoded = .ok name
    · exact ⟨(position, source), fun after ↦ by simp [findEntry, hfirst]⟩
    · have hbefore : ∃ entry ∈ before, entry.1.decoded = .ok name := by simpa [hfirst] using h
      obtain ⟨found, hlater⟩ := ih hbefore (position + 1)
      refine ⟨found, fun after ↦ ?_⟩
      simp only [List.cons_append, findEntry, hlater]
      split
      · next other hother =>
        have hne : other ≠ name := fun heq ↦ hfirst (heq ▸ hother)
        rw [if_neg hne]
      · rfl

/-- The faults of entries do not depend on the flag. -/
theorem entryFault_append {key : Literal} (known : List String)
    (before after : List (Literal × Source)) (ending : Option Flaw) (seen : List String)
    (position : Nat) :
    entryFault known seen position ending (before ++ (key, .bool b) :: after) =
      entryFault known seen position ending (before ++ (key, .bool b') :: after) := by
  induction before generalizing seen position with
  | nil => rfl
  | cons entry before ih =>
    obtain ⟨first, value⟩ := entry
    simp only [List.cons_append, entryFault, ih]

/-- Whether a name that no entry has was seen before makes no difference to the faults of entries;
nor does their position, but for that of the fault. -/
theorem entryFault_succ (known : List String) {seen seen' : List String} {hole position : Nat}
    (h : hole ≤ position) (ending : Option Flaw) {entries : List (Literal × Source)}
    (hentries : ∀ entry ∈ entries, entry.1.decoded ≠ .ok name)
    (hseen : ∀ other, other ≠ name → (other ∈ seen' ↔ other ∈ seen)) :
    entryFault known seen' (position + 1) ending entries =
      (entryFault known seen position ending entries).map (moved (skip hole)) := by
  induction entries generalizing seen seen' position with
  | nil => cases ending <;> simp [entryFault, moved, skip_of_le h]
  | cons entry entries ih =>
    obtain ⟨hfirst, hrest⟩ := List.forall_mem_cons.mp hentries
    obtain ⟨first, value⟩ := entry
    simp only [entryFault]
    cases hfound : first.decoded with
    | error flaw => simp [moved, skip_of_le h]
    | ok found =>
      have hne : found ≠ name := fun heq ↦ hfirst (heq ▸ hfound)
      have hlater := Nat.le_succ_of_le h
      have hmore : ∀ other, other ≠ name → (other ∈ found :: seen' ↔ other ∈ found :: seen) :=
        fun other hother ↦ by simp [hseen other hother]
      simp only [List.contains_iff_mem, hseen found hne]
      split
      · split
        · simp [moved, skip_of_le h]
        · exact ih hlater hrest hmore
      · split
        · simp [moved, skip_of_le h]
        · exact ih hlater hrest hseen

/-- A known name that no other entry has brings no fault. -/
theorem entryFault_insert {key : Literal} {known : List String} (hknown : name ∈ known)
    (hkey : key.decoded = .ok name) (value : Source) {before after : List (Literal × Source)}
    (ending : Option Flaw) (hothers : ∀ entry ∈ before ++ after, entry.1.decoded ≠ .ok name)
    {seen : List String} (hseen : name ∉ seen) (position : Nat) :
    entryFault known seen position ending (before ++ (key, value) :: after) =
      (entryFault known seen position ending (before ++ after)).map
        (moved (skip (position + before.length))) := by
  induction before generalizing seen position with
  | nil =>
    have hseen' (other : String) (hother : other ≠ name) : other ∈ name :: seen ↔ other ∈ seen := by
      simp [hother]
    have hlater := entryFault_succ known (Nat.le_refl position) ending hothers hseen'
    simpa [entryFault, hkey, hknown, hseen] using hlater
  | cons entry before ih =>
    obtain ⟨hfirst, hrest⟩ := List.forall_mem_cons.mp hothers
    obtain ⟨first, source⟩ := entry
    simp only [List.cons_append, entryFault, List.length_cons]
    cases hfound : first.decoded with
    | error flaw => simp [moved, skip]
    | ok found =>
      have hne : found ≠ name := fun heq ↦ hfirst (heq ▸ hfound)
      have hlater (seen : List String) (hseen : name ∉ seen) := ih hrest hseen (position + 1)
      simp only [Nat.add_right_comm position 1, Nat.add_assoc] at hlater
      dsimp only
      split
      · split
        · simp [moved, skip]
        · exact hlater _ (by simp [hne.symm, hseen])
      · split
        · simp [moved, skip]
        · exact hlater _ hseen

/-- A known name that stands twice is a fault, if there is none before it. -/
theorem isSome_entryFault_append {key : Literal} {known : List String} (hknown : name ∈ known)
    (hkey : key.decoded = .ok name) (before after : List (Literal × Source)) (value : Source)
    (ending : Option Flaw) {seen : List String} (position : Nat)
    (htwice : name ∈ seen ∨ ∃ entry ∈ before, entry.1.decoded = .ok name) :
    (entryFault known seen position ending (before ++ (key, value) :: after)).isSome := by
  induction before generalizing seen position with
  | nil =>
    have hseen : name ∈ seen := by simpa using htwice
    simp [entryFault, hkey, hknown, hseen]
  | cons entry before ih =>
    obtain ⟨first, other⟩ := entry
    simp only [List.cons_append, entryFault]
    cases hfirst : first.decoded with
    | error flaw => simp
    | ok found =>
      have hrest : name ∈ found :: seen ∨ ∃ entry ∈ before, entry.1.decoded = .ok name := by
        rcases htwice with hseen | ⟨entry, hentry, hname⟩
        · exact .inl (List.mem_cons_of_mem _ hseen)
        · rcases List.mem_cons.mp hentry with rfl | hentry
          · rw [hfirst] at hname
            cases hname
            exact .inl List.mem_cons_self
          · exact .inr ⟨entry, hentry, hname⟩
      dsimp only
      split
      · split
        · simp
        · exact ih (position + 1) hrest
      · next hunknown =>
        split
        · simp
        · refine ih (position + 1) (hrest.imp_left fun hmem ↦ ?_)
          refine (List.mem_cons.mp hmem).resolve_left ?_
          rintro rfl
          exact hunknown (List.contains_iff_mem.mpr hknown)

/-! ### Shapes with a flag -/

/-- Where the entries of an object are found. -/
def foundAmong (sources : List (Literal × Source)) (field : String) : Found :=
  match findEntry field 0 sources with
  | some (position, value) => .entry position value
  | none => .absent (sources.length + 1)

/-- Where the items of an array are found that is given for an object. -/
def foundAt (names : List String) (expected : String) (items : List Source) (ending : Option Flaw)
    (field : String) : Found :=
  match items[names.idxOf field]?, ending with
  | some item, _ => .entry (names.idxOf field) item
  | none, some flaw => .beyond (names.idxOf field) (.flaw flaw)
  | none, none => .beyond (names.idxOf field) (.shape (.invalidLength (names.idxOf field) expected))

/-- What comes of an array that is given for an object, once its items were decoded. -/
def exhausted (known : Nat) (place : Place) (given : Nat) (ending : Option Flaw)
    (outcome : Checked α) : Except DecodeError α :=
  match outcome with
  | .error e => .error e.2
  | .ok a =>
    if known < given then
      if place.fromText then .error (.flaw .malformed)
      else wrongShape (.invalidLength given "fewer elements in array")
    else
      match ending with
      | none => .ok a
      | some flaw => .error (.flaw flaw)

/-- An item at another index is the same. -/
theorem getElem?_append_of_ne {before : List α} {a a' : α} {after : List α} {i : Nat}
    (h : i ≠ before.length) : (before ++ a :: after)[i]? = (before ++ a' :: after)[i]? := by
  rcases Nat.lt_or_gt_of_ne h with hlt | hgt
  · rw [List.getElem?_append_left hlt, List.getElem?_append_left hlt]
  · obtain ⟨k, hk⟩ : ∃ k, i - before.length = k + 1 := ⟨i - before.length - 1, by omega⟩
    rw [List.getElem?_append_right (by omega), List.getElem?_append_right (by omega), hk,
      List.getElem?_cons_succ, List.getElem?_cons_succ]

/-- The name behind all others has the index after theirs. -/
theorem idxOf_append_self {names : List String} (h : name ∉ names) :
    (names ++ [name]).idxOf name = names.length := by
  rw [List.idxOf_append_of_notMem h]
  simp

theorem idxOf_append_ne {names : List String} {other : String} (h : other ≠ name) :
    (names ++ [name]).idxOf other ≠ names.length := by
  by_cases hmem : other ∈ names
  · rw [List.idxOf_append_of_mem hmem]
    exact (List.idxOf_lt_length_of_mem hmem).ne
  · rw [List.idxOf_append_of_notMem hmem]
    simp [h.symm]

section Shape

variable {shape : (Bool → α) → Prop} {front : Fields (Bool → α)} {flag : Decoder Bool}
  {default : Bool} {place : Place}

/-- Where the flag is found, the fields before it decide whether there is a value. -/
theorem Fields.decode_and_flag {look : String → Found} {position : Nat}
    (hflag : ∀ place b, flag place (.bool b) = .ok b)
    (hlook : look name = .entry position (.bool b)) :
    (front.and (.withDefault name flag default)).decode place look =
      (front.decode place look).map fun make ↦ make b := by
  simp only [Fields.and, Fields.withDefault, hlook, atEntry, hflag, Except.mapError]
  cases front.decode place look <;> rfl

/-- Where the flag is left out, its default counts. -/
theorem Fields.decode_and_default {look : String → Found} {position : Nat}
    (hlook : look name = .absent position) :
    (front.and (.withDefault name flag default)).decode place look =
      (front.decode place look).map fun make ↦ make default := by
  simp only [Fields.and, Fields.withDefault, hlook]
  cases front.decode place look <;> rfl

theorem concluded_moved {shift : Nat → Nat} (hshift : StrictMono shift) (outcome : Checked α)
    (fault : Option Located) :
    concluded (outcome.mapError (moved shift)) (fault.map (moved shift)) =
      concluded outcome fault := by
  cases outcome with
  | ok a => cases fault <;> rfl
  | error e =>
    cases fault with
    | none => rfl
    | some e' => exact congrArg (fun e ↦ Except.error e.2) (earlier_moved hshift e e')

theorem abreast_concluded {outcome : Checked (Bool → α)} (fault : Option Located)
    (hshape : ∀ make, outcome = .ok make → shape make) :
    Abreast shape b b' (concluded (outcome.map fun make ↦ make b) fault)
      (concluded (outcome.map fun make ↦ make b') fault) := by
  cases outcome with
  | error e => cases fault <;> exact .fault _
  | ok make =>
    cases fault with
    | none => exact .value (hshape make rfl)
    | some e => exact .fault _

theorem abreast_exhausted {outcome : Checked (Bool → α)} {known given : Nat}
    (ending : Option Flaw) (hshape : ∀ make, outcome = .ok make → shape make) :
    Abreast shape b b' (exhausted known place given ending (outcome.map fun make ↦ make b))
      (exhausted known place given ending (outcome.map fun make ↦ make b')) := by
  cases outcome with
  | error e => exact .fault _
  | ok make =>
    simp only [exhausted, Except.map]
    split
    · split <;> exact .fault _
    · cases ending with
      | none => exact .value (hshape make rfl)
      | some flaw => exact .fault _

theorem abreast_bind {γ : Type} (check : Except ε γ) {x x' : Except ε α}
    (h : Abreast shape b b' x x') :
    Abreast shape b b' (check >>= fun _ ↦ x) (check >>= fun _ ↦ x') := by
  cases check with
  | error e => exact .fault e
  | ok _ => exact h

/-- An object with a flag. -/
theorem Fields.decoder_flips_entry (title : String) {before after : List (Literal × Source)}
    {key : Literal} (ending : Option Flaw) (hkey : key.decoded = .ok name)
    (hflag : ∀ place b, flag place (.bool b) = .ok b) (hfront : front.Overlooks name)
    (hshape : ∀ place look make, front.decode place look = .ok make → shape make) :
    let fields := front.and (.withDefault name flag default)
    Abreast shape b b'
      (fields.decoder title place (.obj (before ++ (key, .bool b) :: after) ending))
      (fields.decoder title place (.obj (before ++ (key, .bool b') :: after) ending)) := by
  intro fields
  let sources (b : Bool) := before ++ (key, Source.bool b) :: after
  let fault := entryFault fields.names [] 0 ending (sources b)
  have hfault : entryFault fields.names [] 0 ending (sources b') = fault :=
    entryFault_append _ _ _ _ _ _
  have hlength : (sources b).length = (sources b').length := by simp [sources]
  have hothers (other : String) (hother : other ≠ name) :
      foundAmong (sources b) other = foundAmong (sources b') other := by
    have hentry : findEntry other 0 (sources b) = findEntry other 0 (sources b') :=
      findEntry_append_of_ne hkey hother before after 0
    rw [foundAmong, foundAmong, hentry, hlength]
  change Abreast shape b b'
    (place.enter >>= fun _ ↦ concluded (fields.decode place.deeper (foundAmong (sources b))) fault)
    (place.enter >>= fun _ ↦ concluded (fields.decode place.deeper (foundAmong (sources b')))
      (entryFault fields.names [] 0 ending (sources b')))
  rw [hfault]
  refine abreast_bind _ ?_
  by_cases htwice : ∃ entry ∈ before, entry.1.decoded = .ok name
  · -- Something else stands under the name before the flag, so the name stands twice.
    obtain ⟨first, hfound⟩ := exists_findEntry_append htwice 0
    have hsame : foundAmong (sources b) = foundAmong (sources b') := by
      funext other
      by_cases hother : other = name
      · simp only [foundAmong, sources, hother, hfound]
      · exact hothers other hother
    have hknown : name ∈ fields.names := List.mem_append_right _ List.mem_cons_self
    obtain ⟨e, he⟩ : ∃ e, fault = some e := Option.isSome_iff_exists.mp
      (isSome_entryFault_append hknown hkey before after _ ending 0 (.inr htwice))
    rw [hsame, he]
    cases fields.decode place.deeper (foundAmong (sources b')) <;> exact .fault _
  · have hfirst : ∀ entry ∈ before, entry.1.decoded ≠ .ok name :=
      fun entry hentry hname ↦ htwice ⟨entry, hentry, hname⟩
    have hlook (b : Bool) : foundAmong (sources b) name = .entry before.length (.bool b) := by
      simp only [foundAmong, sources, findEntry_append_of_forall_ne hkey _ hfirst, Nat.zero_add]
    rw [decode_and_flag hflag (hlook b), decode_and_flag hflag (hlook b'),
      hfront.same place.deeper hothers]
    exact abreast_concluded fault (hshape _ _)

/-- Where entries are found once one with another name was put among them. -/
theorem foundAmong_insert {key : Literal} {other : String} (hkey : key.decoded = .ok name)
    (hother : other ≠ name) (value : Source) (before after : List (Literal × Source)) :
    foundAmong (before ++ (key, value) :: after) other =
      (foundAmong (before ++ after) other).move (skip before.length) := by
  have hlength : before.length ≤ before.length + after.length + 1 := by omega
  rw [foundAmong, foundAmong, findEntry_insert hkey hother, Nat.zero_add]
  cases findEntry other 0 (before ++ after) with
  | none =>
    simp only [Option.map_none, Found.move, List.length_append, List.length_cons,
      skip_of_le hlength]
    rfl
  | some found => rfl

/-- An object without the flag is decoded like the same object with the default of the flag. -/
theorem Fields.decoder_abridged_entry (title : String) {before after : List (Literal × Source)}
    {key : Literal} (ending : Option Flaw) (hkey : key.decoded = .ok name)
    (hothers : ∀ entry ∈ before ++ after, entry.1.decoded ≠ .ok name)
    (hflag : ∀ place b, flag place (.bool b) = .ok b) (hfront : front.Overlooks name) :
    let fields := front.and (.withDefault name flag default)
    fields.decoder title place (.obj (before ++ after) ending) =
      fields.decoder title place (.obj (before ++ (key, .bool default) :: after) ending) := by
  intro fields
  let outcome := front.decode place.deeper (foundAmong (before ++ after))
  have hknown : name ∈ fields.names := List.mem_append_right _ List.mem_cons_self
  have habsent : foundAmong (before ++ after) name = .absent ((before ++ after).length + 1) := by
    rw [foundAmong, findEntry_of_forall_ne hothers]
  have hpresent : foundAmong (before ++ (key, .bool default) :: after) name =
      .entry before.length (.bool default) := by
    have hfirst : ∀ entry ∈ before, entry.1.decoded ≠ .ok name :=
      fun entry hentry ↦ hothers entry (List.mem_append_left after hentry)
    simp only [foundAmong, findEntry_append_of_forall_ne hkey _ hfirst, Nat.zero_add]
  have hmoved : front.decode place.deeper (foundAmong (before ++ (key, .bool default) :: after)) =
      outcome.mapError (moved (skip before.length)) :=
    hfront place.deeper _ _ _ (strictMono_skip before.length)
      fun other hother ↦ foundAmong_insert hkey hother _ before after
  have hfault := entryFault_insert hknown hkey (.bool default) ending hothers List.not_mem_nil 0
  rw [Nat.zero_add] at hfault
  change (place.enter >>= fun _ ↦ concluded (fields.decode place.deeper (foundAmong _))
      (entryFault fields.names [] 0 ending (before ++ after))) =
    (place.enter >>= fun _ ↦ concluded (fields.decode place.deeper (foundAmong _))
      (entryFault fields.names [] 0 ending (before ++ (key, .bool default) :: after)))
  rw [decode_and_default habsent, decode_and_flag hflag hpresent, hmoved, hfault]
  have hmap : (outcome.mapError (moved (skip before.length))).map (fun make ↦ make default) =
      (outcome.map fun make ↦ make default).mapError (moved (skip before.length)) := by
    cases outcome <;> rfl
  rw [hmap, concluded_moved (strictMono_skip before.length)]

/-- An array whose last item is a flag. -/
theorem Fields.decoder_flips_item (title : String) {before after : List Source}
    (ending : Option Flaw) (hbefore : before.length = front.names.length)
    (hflag : ∀ place b, flag place (.bool b) = .ok b) (hfront : front.Overlooks name)
    (hnames : name ∉ front.names)
    (hshape : ∀ place look make, front.decode place look = .ok make → shape make) :
    let fields := front.and (.withDefault name flag default)
    Abreast shape b b' (fields.decoder title place (.arr (before ++ .bool b :: after) ending))
      (fields.decoder title place (.arr (before ++ .bool b' :: after) ending)) := by
  intro fields
  let items (b : Bool) := before ++ Source.bool b :: after
  let look (b : Bool) :=
    foundAt fields.names (withElements title fields.names.length) (items b) ending
  have hposition : fields.names.idxOf name = before.length :=
    (idxOf_append_self hnames).trans hbefore.symm
  have hlook (b : Bool) : look b name = .entry before.length (.bool b) := by
    simp [look, foundAt, hposition, items]
  have hothers (other : String) (hother : other ≠ name) : look b other = look b' other := by
    have hne : fields.names.idxOf other ≠ before.length := hbefore ▸ idxOf_append_ne hother
    simp only [look, foundAt, items]
    rw [getElem?_append_of_ne hne]
  have hdecode (b : Bool) : fields.decode place.deeper (look b) =
      (front.decode place.deeper (look b)).map fun make ↦ make b :=
    decode_and_flag hflag (hlook b)
  have hlength : (items b').length = (items b).length := by simp [items]
  let finish (b : Bool) :=
    exhausted fields.names.length place (items b).length ending
      (fields.decode place.deeper (look b))
  change Abreast shape b b' (place.enter >>= fun _ ↦ finish b) (place.enter >>= fun _ ↦ finish b')
  simp only [finish]
  rw [hdecode b, hdecode b', hfront.same place.deeper hothers, hlength]
  exact abreast_bind _ (abreast_exhausted ending (hshape _ _))

/-- An array without the flag at its end is decoded like the same array with the default of the
flag. -/
theorem Fields.decoder_abridged_item (title : String) {before : List Source}
    (hbefore : before.length = front.names.length) (hflag : ∀ place b, flag place (.bool b) = .ok b)
    (hfront : front.Overlooks name) (hnames : name ∉ front.names) :
    let fields := front.and (.withDefault name flag default)
    fields.decoder title place (.arr before none) =
      fields.decoder title place (.arr (before ++ [.bool default]) none) := by
  intro fields
  let look (items : List Source) :=
    foundAt fields.names (withElements title fields.names.length) items none
  have hposition : fields.names.idxOf name = before.length :=
    (idxOf_append_self hnames).trans hbefore.symm
  have hlook : look (before ++ [.bool default]) name = .entry before.length (.bool default) := by
    simp [look, foundAt, hposition]
  have hnothing : look before name = .beyond before.length
      (.shape (.invalidLength before.length (withElements title fields.names.length))) := by
    simp [look, foundAt, hposition]
  have hothers (other : String) (hother : other ≠ name) :
      look (before ++ [.bool default]) other = look before other := by
    have hne : fields.names.idxOf other ≠ before.length := hbefore ▸ idxOf_append_ne hother
    simp only [look, foundAt]
    rcases Nat.lt_or_gt_of_ne hne with hlt | hgt
    · rw [List.getElem?_append_left hlt]
    · rw [List.getElem?_eq_none_iff.mpr (by simpa using hgt),
        List.getElem?_eq_none_iff.mpr (Nat.le_of_lt hgt)]
  have hwith : fields.decode place.deeper (look (before ++ [.bool default])) =
      (front.decode place.deeper (look before)).map fun make ↦ make default := by
    rw [decode_and_flag hflag hlook, hfront.same place.deeper hothers]
  have hwithout : fields.decode place.deeper (look before) =
      (front.decode place.deeper (look before)).map fun make ↦ make default := by
    simp only [fields, Fields.and, Fields.withDefault, hnothing]
    cases front.decode place.deeper (look before) <;> rfl
  change (place.enter >>= fun _ ↦ exhausted fields.names.length place before.length none
      (fields.decode place.deeper (look before))) =
    (place.enter >>= fun _ ↦ exhausted fields.names.length place _ none
      (fields.decode place.deeper (look (before ++ [.bool default]))))
  rw [hwith, hwithout]
  have hknown : fields.names.length = before.length + 1 := by
    simp [fields, Fields.and, Fields.withDefault, hbefore]
  simp [exhausted, hknown]

end Shape

end Json

namespace Gateway

open Json (Abreast Decoder Fields Source)

variable {α : Type} {b b' : Bool}

/-! ### Requests with a flag -/

/-- Whether two requests are the same except for the flag in their bodies, which an array has at an
index. A body that leaves out the flag is one whose flag is set. -/
structure Request.Flips (index : Nat) (b b' : Bool) (request request' : Request) : Prop where
  beside : request' = { request with body := request'.body }
  root : ∃ said said',
    Source.Abridges "stream" index true (Json.readDocument request.body.toList).root said ∧
    Source.Abridges "stream" index true (Json.readDocument request'.body.toList).root said' ∧
    Source.Flips "stream" index b b' said said'
  trailing : (Json.readDocument request'.body.toList).trailing =
    (Json.readDocument request.body.toList).trailing

/-- Decoders that agree up to the flag also agree on requests. -/
theorem abreast_readBody {shape : (Bool → α) → Prop} {decoder : Decoder α} {index : Nat}
    {request request' : Request} (h : request.Flips index b b' request')
    (hroot : Abreast shape b b'
      (decoder { fromText := true } (Json.readDocument request.body.toList).root)
      (decoder { fromText := true } (Json.readDocument request'.body.toList).root)) :
    Abreast shape b b' (readBody decoder request) (readBody decoder request') := by
  have hheader : request'.header? "content-type" = request.header? "content-type" := by
    rw [h.beside]
    rfl
  have htext : Abreast shape b b' (Json.decodeText decoder request.body.toList)
      (Json.decodeText decoder request'.body.toList) := by
    simp only [Json.decodeText, h.trailing]
    generalize decoder { fromText := true } (Json.readDocument request.body.toList).root = x,
      decoder { fromText := true } (Json.readDocument request'.body.toList).root = x' at hroot ⊢
    cases hroot with
    | fault e => exact .fault e
    | value hshape =>
      cases (Json.readDocument request.body.toList).trailing with
      | none => exact .value hshape
      | some flaw => exact .fault _
  simp only [readBody, hheader]
  split
  · generalize Json.decodeText decoder request.body.toList = x,
      Json.decodeText decoder request'.body.toList = x' at htext ⊢
    cases htext with
    | fault e => cases e <;> exact .fault _
    | value hshape => exact .value hshape
  · exact .fault _

section Body

variable {shape : (Bool → α) → Prop} {front : Bool → Fields (Bool → α)} {index : Nat}
  {title : String}

/-- The shape of a body that has some fields and then the flag, which is set if it is left out. -/
def flagged (front : Bool → Fields (Bool → α)) (index : Nat) (title : String) : Decoder α :=
  locating fun inArray ↦ ((front inArray).and (.withDefault "stream"
    (located "stream" index Json.Decode.bool inArray) true)).decoder title

theorem flagged_abridges (hfront : ∀ inArray, (front inArray).Overlooks "stream")
    (hnames : "stream" ∉ (front true).names) (hindex : (front true).names.length = index)
    {source said : Source} (h : source.Abridges "stream" index true said) (place : Json.Place) :
    flagged front index title place source = flagged front index title place said := by
  cases h with
  | nothing => rfl
  | entry before after ending hkey hothers =>
    exact Fields.decoder_abridged_entry title ending hkey hothers (fun _ _ ↦ rfl) (hfront false)
  | item before hbefore =>
    exact Fields.decoder_abridged_item title (hbefore.trans hindex.symm) (fun _ _ ↦ rfl)
      (hfront true) hnames

/-- A body with a flag is read into the same whatever the flag is, but for the flag. -/
theorem readBody_flagged (hfront : ∀ inArray, (front inArray).Overlooks "stream")
    (hnames : "stream" ∉ (front true).names) (hindex : (front true).names.length = index)
    (hshape : ∀ inArray place look make, (front inArray).decode place look = .ok make → shape make)
    {request request' : Request} (h : request.Flips index b b' request') :
    Abreast shape b b' (readBody (flagged front index title) request)
      (readBody (flagged front index title) request') := by
  refine abreast_readBody h ?_
  obtain ⟨said, said', habridges, habridges', hflips⟩ := h.root
  rw [flagged_abridges hfront hnames hindex habridges,
    flagged_abridges hfront hnames hindex habridges']
  cases hflips with
  | entry before after ending hkey =>
    exact Fields.decoder_flips_entry title ending hkey (fun _ _ ↦ rfl) (hfront false)
      (hshape false)
  | item before after ending hbefore =>
    exact Fields.decoder_flips_item title ending (hbefore.trans hindex.symm) (fun _ _ ↦ rfl)
      (hfront true) hnames (hshape true)

end Body

/-- The bodies of two requests for a new run, up to the flag. -/
def RunRequest.IsMade (make : Bool → RunRequest) : Prop :=
  ∃ task actor thread, make = RunRequest.mk task actor thread

/-- The bodies of two requests to go on with a run, up to the flag. -/
def ResumeRequest.IsMade (make : Bool → ResumeRequest) : Prop :=
  ∃ thread, make = ResumeRequest.mk thread

theorem RunRequest.readBody_flips {request request' : Request}
    (h : request.Flips 3 b b' request') :
    Abreast IsMade b b' (readBody decoder request) (readBody decoder request') := by
  let front (inArray : Bool) := Fields.done RunRequest.mk
    |>.and (.required "task" (located "task" 0 Json.Decode.string inArray))
    |>.and (.required "actorId" (located "actorId" 1 Json.Decode.string inArray))
    |>.and (.withDefault "threadId"
      (located "threadId" 2 (Json.Decode.option Json.Decode.string) inArray) none)
  have hfront (inArray : Bool) : (front inArray).Overlooks "stream" :=
    (((Fields.Overlooks.done RunRequest.mk).and (.required _ (by decide))).and
      (.required _ (by decide))).and (.withDefault _ _ (by decide))
  have hshape (inArray : Bool) (place look make)
      (hmake : (front inArray).decode place look = .ok make) : IsMade make := by
    obtain ⟨withThread, thread, hthread, -, rfl⟩ := Fields.and_eq_ok hmake
    obtain ⟨withActor, actor, hactor, -, rfl⟩ := Fields.and_eq_ok hthread
    obtain ⟨withTask, task, htask, -, rfl⟩ := Fields.and_eq_ok hactor
    cases htask
    exact ⟨task, actor, thread, rfl⟩
  have hdecoder : decoder = flagged front 3 "struct RunRequest" := rfl
  rw [hdecoder]
  exact readBody_flagged hfront (by decide) rfl hshape h

theorem ResumeRequest.readBody_flips {request request' : Request}
    (h : request.Flips 1 b b' request') :
    Abreast IsMade b b' (readBody decoder request) (readBody decoder request') := by
  let front (inArray : Bool) := Fields.done ResumeRequest.mk
    |>.and (.required "threadId" (located "threadId" 0 Json.Decode.string inArray))
  have hfront (inArray : Bool) : (front inArray).Overlooks "stream" :=
    (Fields.Overlooks.done ResumeRequest.mk).and (.required _ (by decide))
  have hshape (inArray : Bool) (place look make)
      (hmake : (front inArray).decode place look = .ok make) : IsMade make := by
    obtain ⟨withThread, thread, hthread, -, rfl⟩ := Fields.and_eq_ok hmake
    cases hthread
    exact ⟨thread, rfl⟩
  have hdecoder : decoder = flagged front 1 "struct ResumeRequest" := rfl
  rw [hdecoder]
  exact readBody_flagged hfront (by decide) rfl hshape h

end Gateway

end Errand
