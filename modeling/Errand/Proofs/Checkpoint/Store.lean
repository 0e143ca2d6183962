import Errand.Checkpoint.Store
import Errand.Proofs.Run.Encoding

/-!
# What a store of runs keeps

A run that was saved where there is room comes back when its thread is loaded or claimed, as it was
but for who watches it (`load_of_lookup`, `claim_of_lookup`). A claim keeps others out until it is
given back. `load_save` has the whole of it for one run: what is read from its text, that this is
written as the same text again, and that the store gives it out.
-/

set_option autoImplicit false

namespace Errand

/-! ### Entries that are taken out -/

theorem Entries.lookup_filter_self {α : Type} (name : String) (entries : List (String × α)) :
    (entries.filter (·.1 != name)).lookup name = none := by
  refine List.lookup_eq_none_iff.mpr fun entry hentry ↦ ?_
  have hne : entry.1 ≠ name := by simpa using (List.mem_filter.mp hentry).2
  simpa using Ne.symm hne

theorem Entries.lookup_filter_of_ne {α : Type} {name other : String} (h : other ≠ name)
    (entries : List (String × α)) :
    (entries.filter (·.1 != name)).lookup other = entries.lookup other := by
  induction entries with
  | nil => rfl
  | cons entry rest ih =>
    obtain ⟨n, v⟩ := entry
    by_cases hn : n = name
    · subst hn
      simp [List.lookup_cons, beq_eq_false_iff_ne.mpr h, ih]
    · simp [hn, List.lookup_cons, ih]

namespace Checkpoint.Store

variable {store : Store} {thread : String} {run : Run}

/-- A run that was saved is kept. -/
theorem lookup_save (hroomy : store.limits.roomy) (thread : String) (run : Run) :
    (store.save thread run).kept.lookup thread = some run.write := by
  rw [save, if_pos hroomy]
  exact Entries.lookup_set_self thread run.write store.kept

@[simp] theorem limits_save (store : Store) (thread : String) (run : Run) :
    (store.save thread run).limits = store.limits := by
  unfold save
  split <;> rfl

@[simp] theorem claims_save (store : Store) (thread : String) (run : Run) :
    (store.save thread run).claims = store.claims := by
  unfold save
  split <;> rfl

/-- Saving a run leaves the runs of other threads as they are. -/
theorem lookup_save_of_ne {other : String} (h : other ≠ thread) (run : Run) :
    (store.save thread run).kept.lookup other = store.kept.lookup other := by
  unfold save
  split
  · exact Entries.lookup_set_of_ne h run.write store.kept
  · rfl

/-- A run that is kept is loaded. -/
theorem load_of_lookup (hcursor : run.cursor < 2 ^ 64)
    (hkept : store.kept.lookup thread = some run.write) :
    store.load thread = .ok (some (run.watch false)) := by
  rw [load, hkept]
  simp only [decode, Run.read_write hcursor]
  rfl

theorem load_of_lookup_eq_none (hkept : store.kept.lookup thread = none) :
    store.load thread = .ok none := by
  rw [load, hkept]

/-- The refusal of a thread that is claimed. -/
def busy (thread : String) : Fault :=
  .conflict ("Thread '" ++ thread ++ "' is already being resumed")

theorem claim_of_mem (hclaimed : thread ∈ store.claims) :
    store.claim thread = (.error (busy thread), store) := by
  rw [claim, if_pos hclaimed]
  rfl

/-- A run that is kept and not claimed can be claimed. -/
theorem claim_of_lookup (hcursor : run.cursor < 2 ^ 64)
    (hkept : store.kept.lookup thread = some run.write) (hfree : thread ∉ store.claims) :
    store.claim thread =
      (.ok (some (run.watch false)), { store with claims := thread :: store.claims }) := by
  rw [claim, if_neg hfree, load_of_lookup hcursor hkept]

theorem notMem_claims_release (store : Store) (thread : String) :
    thread ∉ (store.release thread).claims := by
  simp [release]

/-- A run that was removed is not kept. -/
theorem lookup_delete (store : Store) (thread : String) :
    (store.delete thread).2.kept.lookup thread = none :=
  Entries.lookup_filter_self thread store.kept

/-- Removing a run leaves the runs of other threads as they are. -/
theorem lookup_delete_of_ne {other : String} (h : other ≠ thread) :
    (store.delete thread).2.kept.lookup other = store.kept.lookup other :=
  Entries.lookup_filter_of_ne h store.kept

/-- A run comes back from its text as it was, but nobody watches it, and is written as the same text
again. Wherever there is room it is loaded like that after it was saved, and claimed like that
unless its thread is claimed already. -/
theorem load_save {run : Run} (hcursor : run.cursor < 2 ^ 64) :
    ∃ back : Run, Run.read run.write = .ok back ∧
      back = { run with task := { run.task with watched := false } } ∧
      back.write = run.write ∧
      ∀ (store : Store) (thread : String), store.limits.roomy →
        (store.save thread run).load thread = .ok (some back) ∧
        ((store.save thread run).claim thread).1 =
          if thread ∈ store.claims then .error (busy thread) else .ok (some back) := by
  refine ⟨run.watch false, Run.read_write hcursor, rfl, rfl, fun store thread hroomy ↦ ?_⟩
  have hkept := lookup_save hroomy thread run
  refine ⟨load_of_lookup hcursor hkept, ?_⟩
  split
  · next hclaimed => rw [claim_of_mem (by rwa [claims_save])]
  · next hfree => rw [claim_of_lookup hcursor hkept (by rwa [claims_save])]

/-- A watched run with control characters, an empty id and the greatest cursor there is. It comes
back with nobody watching, its results in their order. -/
theorem load_save_greatest_cursor :
    let run : Run :=
      { task := { instruction := "\x00\n\"\\é", actor := "", watched := true }
        stage := .tool
        plan := some ⟨[⟨"t", "", "LLM", "\x7b\x7d"⟩], ""⟩
        results := Results.ofList [("b", "2"), ("", "\x1f\u2028")]
        cursor := 2 ^ 64 - 1 }
    run.cursor < 2 ^ 64 ∧
      ∃ back : Run, Run.read run.write = .ok back ∧ back.task.instruction = "\x00\n\"\\é" ∧
        back.task.watched = false ∧ back.results.entries = [("b", "2"), ("", "\x1f\u2028")] ∧
        (({} : Store).save "t-1" run).load "t-1" = .ok (some back) := by
  intro run
  have hcursor : run.cursor < 2 ^ 64 := by decide
  obtain ⟨back, hread, rfl, -, hstore⟩ := load_save hcursor
  exact ⟨hcursor, _, hread, rfl, rfl, by decide, (hstore {} "t-1" (by decide)).1⟩

end Checkpoint.Store

end Errand
