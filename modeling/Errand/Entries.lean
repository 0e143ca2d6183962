/-!
# Named entries in order

A list of pairs that is used as a dictionary. Setting an entry replaces the value where the name
stands and appends a new name, so that names stay in the order in which they first appeared.
-/

set_option autoImplicit false

namespace Errand.Entries

/-- Sets an entry: in place if the name is there, at the end otherwise. -/
def set {α : Type} (name : String) (value : α) : List (String × α) → List (String × α)
  | [] => [(name, value)]
  | (n, v) :: rest => if n = name then (n, value) :: rest else (n, v) :: set name value rest

/-- The names, in order. -/
def names {α : Type} (entries : List (String × α)) : List String :=
  entries.map (·.1)

/-- Setting an entry adds its name at the end unless the name is there. -/
theorem names_set {α : Type} (name : String) (value : α) (entries : List (String × α)) :
    names (set name value entries) =
      if name ∈ names entries then names entries else names entries ++ [name] := by
  induction entries with
  | nil => simp [names, set]
  | cons entry rest ih =>
    obtain ⟨n, v⟩ := entry
    simp only [names] at ih
    by_cases h : n = name
    · simp [names, set, h]
    · have h' : name ≠ n := fun e => h e.symm
      by_cases hm : name ∈ List.map (·.1) rest
      · simp_all [names, set]
      · simp_all [names, set]

/-- A new name is set at the end. -/
theorem set_of_notMem {α : Type} {name : String} {value : α} {entries : List (String × α)}
    (h : name ∉ names entries) : set name value entries = entries ++ [(name, value)] := by
  induction entries with
  | nil => rfl
  | cons entry rest ih =>
    simp only [names, List.map_cons, List.mem_cons, not_or] at h
    simp [set, Ne.symm h.1, ih h.2]

/-- Setting an entry keeps the names distinct. -/
theorem nodup_names_set {α : Type} {name : String} {value : α} {entries : List (String × α)}
    (h : (names entries).Nodup) : (names (set name value entries)).Nodup := by
  rw [names_set]
  split
  · exact h
  · next hm => exact List.nodup_append.2 ⟨h, by simp, by
    intro a ha b hb
    simp only [List.mem_singleton] at hb
    exact fun e => hm (hb ▸ e ▸ ha)⟩

/-- An entry that was set is found. -/
theorem lookup_set_self {α : Type} (name : String) (value : α) (entries : List (String × α)) :
    (set name value entries).lookup name = some value := by
  induction entries with
  | nil => simp [set]
  | cons entry rest ih =>
    obtain ⟨n, v⟩ := entry
    by_cases h : n = name
    · simp [set, h]
    · have h' : (name == n) = false := by simpa using fun e => h e.symm
      simp [set, h, List.lookup_cons, h', ih]

/-- Setting an entry leaves the others as they are. -/
theorem lookup_set_of_ne {α : Type} {name other : String} (h : other ≠ name) (value : α)
    (entries : List (String × α)) :
    (set name value entries).lookup other = entries.lookup other := by
  induction entries with
  | nil => simp [set, List.lookup_cons, beq_eq_false_iff_ne.2 h]
  | cons entry rest ih =>
    obtain ⟨n, v⟩ := entry
    by_cases hn : n = name
    · subst hn
      simp [set, List.lookup_cons, beq_eq_false_iff_ne.2 h]
    · simp only [set, hn, if_false, List.lookup_cons, ih]

/-- An entry is found under its name if no name stands twice. -/
theorem lookup_of_mem {α : Type} {entry : String × α} {entries : List (String × α)}
    (hnodup : (names entries).Nodup) (hentry : entry ∈ entries) :
    entries.lookup entry.1 = some entry.2 := by
  obtain ⟨front, back, rfl⟩ := List.append_of_mem hentry
  refine List.lookup_eq_some_iff.2 ⟨front, back, rfl, fun other hother => ?_⟩
  simp only [names, List.map_append, List.map_cons] at hnodup
  have hne : other.1 ≠ entry.1 :=
    (List.nodup_append.1 hnodup).2.2 other.1 (List.mem_map_of_mem hother) entry.1 (by simp)
  simpa using Ne.symm hne

end Errand.Entries
