import Errand.Proofs.Checkpoint.Store
import Errand.Proofs.Run.Inquiry

/-!
# A slot for every thread

A store keeps the texts of runs in one place and the threads that are claimed in another. To its
callers both are one slot for each thread, which is free or holds a run that is claimed or not
(`Slot`). What a call is answered and what becomes of the slot is said by `Slot.serve`; no call
looks at the slot of another thread.

`Store.Fills` says how a store and the slots belong together. A call is answered alike by both
(`Fills.outcome_make`) and keeps them together (`Fills.make`), so after any calls a store fills the
slots, each of which has seen the calls of its own thread only (`fills_after`). What stands in a
slot can be told from the history: the run that was saved last, if it was not removed since, and a
claim that was granted and not given back since (`Slot.run?_after`, `Slot.isClaimed_after`).
`serves_as_slots` puts it together.
-/

set_option autoImplicit false

namespace Errand.Checkpoint

open Store (busy)

variable {σ : Type}

/-! ### Calls -/

/-- A call of a vault. -/
inductive Store.Call
  | save (thread : String) (run : Run)
  | load (thread : String)
  | claim (thread : String)
  | release (thread : String)
  | delete (thread : String)

/-- What a call of a vault is answered. -/
inductive Store.Answer
  | done
  | found (run : Option Run)
  | existed (existed : Bool)

namespace Store.Call

/-- The thread that a call is about. -/
def thread : Call → String
  | save thread _ | load thread | claim thread | release thread | delete thread => thread

/-- Makes a call. -/
def make (vault : Vault σ) : Call → Consult σ Answer
  | save thread run => (fun _ ↦ .done) <$> vault.save thread run
  | load thread => .found <$> vault.load thread
  | claim thread => .found <$> vault.claim thread
  | release thread => (fun _ ↦ .done) <$> vault.release thread
  | delete thread => .existed <$> vault.delete thread

/-- Whether the run of a call, if it has one, can be written down: its steps are counted in 64 bits.
-/
def Fits : Call → Prop
  | save _ run => run.cursor < 2 ^ 64
  | _ => True

/-- Whether a call replaces or removes the run of a thread. -/
def Replaces (thread : String) : Call → Prop
  | save other _ | delete other => other = thread
  | _ => False

/-- Whether a call ends the claim to a thread. -/
def Unclaims (thread : String) : Call → Prop
  | release other | delete other => other = thread
  | _ => False

end Store.Call

open Store (Call Answer)

/-- A store after calls. -/
def Store.after (store : Store) (calls : List Call) : Store :=
  calls.foldl (fun store call ↦ (call.make Store.vault store).2) store

theorem Store.after_concat (store : Store) (calls : List Call) (call : Call) :
    store.after (calls ++ [call]) = (call.make Store.vault (store.after calls)).2 := by
  simp [after]

/-! ### Slots -/

/-- What there is for a thread. -/
inductive Slot
  | free
  | holding (run : Run) (claimed : Bool)

namespace Slot

/-- The run in a slot. -/
def run? : Slot → Option Run
  | free => none
  | holding run _ => some run

/-- Whether the run in a slot is claimed. -/
def isClaimed : Slot → Bool
  | free => false
  | holding _ claimed => claimed

/-- What a call about the thread of a slot is answered, and the slot after it. A run that is saved
is a copy that nobody watches. -/
def serve : Slot → Call → Except Fault Answer × Slot
  | free, .save _ run => (.ok .done, holding (run.watch false) false)
  | holding _ claimed, .save _ run => (.ok .done, holding (run.watch false) claimed)
  | slot, .load _ => (.ok (.found slot.run?), slot)
  | free, .claim _ => (.ok (.found none), free)
  | holding run false, .claim _ => (.ok (.found (some run)), holding run true)
  | holding run true, .claim thread => (.error (busy thread), holding run true)
  | free, .release _ => (.ok .done, free)
  | holding run _, .release _ => (.ok .done, holding run false)
  | free, .delete _ => (.ok (.existed false), free)
  | holding _ _, .delete _ => (.ok (.existed true), free)

theorem serve_load (slot : Slot) (thread : String) :
    slot.serve (.load thread) = (.ok (.found slot.run?), slot) := by
  cases slot <;> rfl

/-- The run in a slot is replaced when another is saved, and removed when it is deleted. -/
theorem run?_serve (slot : Slot) (call : Call) :
    (slot.serve call).2.run? =
      match call with
      | .save _ run => some (run.watch false)
      | .delete _ => none
      | _ => slot.run? := by
  cases call <;> rcases slot with _ | ⟨run, _ | _⟩ <;> rfl

/-- A slot is claimed when a claim was granted, or if it was claimed and is not given back. -/
theorem isClaimed_serve (slot : Slot) (call : Call) :
    (slot.serve call).2.isClaimed ↔
      (call = .claim call.thread ∧ ∃ run, (slot.serve call).1 = .ok (.found (some run))) ∨
        ¬ call.Unclaims call.thread ∧ slot.isClaimed := by
  cases call <;> rcases slot with _ | ⟨run, _ | _⟩ <;>
    simp [serve, isClaimed, Call.Unclaims, Call.thread]

/-- The slot of a thread after calls, of which it sees those of its own thread. -/
def after (thread : String) (calls : List Call) : Slot :=
  (calls.filter (·.thread == thread)).foldl (fun slot call ↦ (slot.serve call).2) free

theorem after_concat (thread : String) (calls : List Call) (call : Call) :
    after thread (calls ++ [call]) =
      if call.thread = thread then ((after thread calls).serve call).2 else after thread calls := by
  by_cases hthread : call.thread = thread
  · simp [after, hthread]
  · simp [after, hthread]

/-- A run that is claimed is there. -/
theorem run?_ne_none_of_isClaimed {slot : Slot} (h : slot.isClaimed) : slot.run? ≠ none := by
  cases slot with
  | free => cases h
  | holding run claimed => simp [run?]

end Slot

/-! ### Stores and their slots -/

/-- Whether a store that has room keeps what stands in slots. -/
structure Store.Fills (store : Store) (slots : String → Slot) : Prop where
  roomy : store.limits.roomy
  kept : ∀ thread, store.kept.lookup thread = (slots thread).run?.map Run.write
  claimed : ∀ thread, thread ∈ store.claims ↔ (slots thread).isClaimed
  sound : ∀ thread, ∀ run ∈ (slots thread).run?, run.cursor < 2 ^ 64 ∧ run.watch false = run

namespace Store.Fills

variable {store next : Store} {slots : String → Slot}

/-- An empty store that has room fills slots that are free. -/
theorem of_roomy {limits : Limits} (hroomy : limits.roomy) :
    ({ limits } : Store).Fills fun _ ↦ .free where
  roomy := hroomy
  kept _ := rfl
  claimed _ := by simp [Slot.isClaimed]
  sound _ _ hrun := by cases hrun

/-- A store that differs for one thread only fills the slots that differ there. -/
theorem replace (h : store.Fills slots) {thread : String} {slot : Slot}
    (hlimits : next.limits = store.limits)
    (hkept : next.kept.lookup thread = slot.run?.map Run.write)
    (hclaimed : thread ∈ next.claims ↔ slot.isClaimed)
    (hsound : ∀ run ∈ slot.run?, run.cursor < 2 ^ 64 ∧ run.watch false = run)
    (hothers : ∀ other, other ≠ thread → next.kept.lookup other = store.kept.lookup other ∧
      (other ∈ next.claims ↔ other ∈ store.claims)) :
    next.Fills fun other ↦ if thread = other then slot else slots other := by
  refine ⟨hlimits ▸ h.roomy, fun other ↦ ?_, fun other ↦ ?_, fun other ↦ ?_⟩
  · by_cases hother : thread = other
    · subst hother
      rw [if_pos rfl, hkept]
    · rw [if_neg hother, (hothers other (Ne.symm hother)).1, h.kept]
  · by_cases hother : thread = other
    · subst hother
      rw [if_pos rfl, hclaimed]
    · rw [if_neg hother, (hothers other (Ne.symm hother)).2, h.claimed]
  · by_cases hother : thread = other
    · rw [if_pos hother]
      exact hsound
    · rw [if_neg hother]
      exact h.sound other

theorem load_eq (h : store.Fills slots) (thread : String) :
    store.load thread = .ok (slots thread).run? := by
  have hkept := h.kept thread
  cases hrun : (slots thread).run? with
  | none =>
    rw [hrun, Option.map_none] at hkept
    exact load_of_lookup_eq_none hkept
  | some run =>
    rw [hrun, Option.map_some] at hkept
    obtain ⟨hcursor, hwatch⟩ := h.sound thread run hrun
    rw [load_of_lookup hcursor hkept, hwatch]

/-! ### What each call does to a slot -/

theorem save (h : store.Fills slots) (thread : String) {run : Run} (hcursor : run.cursor < 2 ^ 64) :
    (store.save thread run).Fills fun other ↦
      if thread = other then ((slots thread).serve (.save thread run)).2 else slots other := by
  have hkept := lookup_save h.roomy thread run
  have hclaimed := h.claimed thread
  refine h.replace (limits_save store thread run) ?_ ?_ ?_ fun other hother ↦
    ⟨lookup_save_of_ne hother run, by rw [claims_save]⟩
  · rw [hkept]
    cases slots thread <;> rfl
  · rw [claims_save, hclaimed]
    cases slots thread <;> rfl
  · cases slots thread <;>
    · rintro _ ⟨⟩
      exact ⟨hcursor, rfl⟩

theorem unchanged (h : store.Fills slots) {thread : String} {slot : Slot}
    (hslot : slots thread = slot) :
    store.Fills fun other ↦ if thread = other then slot else slots other := by
  subst hslot
  exact h.replace rfl (h.kept thread) (h.claimed thread) (h.sound thread) fun _ _ ↦ ⟨rfl, .rfl⟩

theorem load (h : store.Fills slots) (thread : String) :
    (store.load thread).map Answer.found = ((slots thread).serve (.load thread)).1 ∧
      store.Fills fun other ↦
        if thread = other then ((slots thread).serve (.load thread)).2 else slots other := by
  rw [h.load_eq, Slot.serve_load]
  exact ⟨rfl, h.unchanged rfl⟩

theorem claim (h : store.Fills slots) (thread : String) :
    (store.claim thread).1.map Answer.found = ((slots thread).serve (.claim thread)).1 ∧
      (store.claim thread).2.Fills fun other ↦
        if thread = other then ((slots thread).serve (.claim thread)).2 else slots other := by
  have hload := h.load_eq thread
  have hclaimed := h.claimed thread
  cases hslot : slots thread with
  | free =>
    rw [hslot] at hload hclaimed
    have hfree : thread ∉ store.claims := by simp [hclaimed, Slot.isClaimed]
    have hclaim : store.claim thread = (.ok none, store) := by
      rw [Store.claim, if_neg hfree, hload]
      rfl
    rw [hclaim]
    exact ⟨rfl, h.unchanged hslot⟩
  | holding run claimed =>
    rw [hslot] at hload hclaimed
    cases claimed with
    | true =>
      have hbusy : thread ∈ store.claims := by simp [hclaimed, Slot.isClaimed]
      rw [claim_of_mem hbusy]
      exact ⟨rfl, h.unchanged hslot⟩
    | false =>
      have hfree : thread ∉ store.claims := by simp [hclaimed, Slot.isClaimed]
      have hclaim : store.claim thread =
          (.ok (some run), { store with claims := thread :: store.claims }) := by
        rw [Store.claim, if_neg hfree, hload]
        rfl
      have hkept := h.kept thread
      have hsound := h.sound thread
      rw [hslot] at hkept hsound
      rw [hclaim]
      refine ⟨rfl, h.replace rfl hkept ?_ hsound fun other hother ↦ ⟨rfl, ?_⟩⟩
      · simp [Slot.serve, Slot.isClaimed]
      · simp [hother]

/-- A claim is refused only if the thread is claimed, and changes nothing then. -/
theorem claim_of_error (h : store.Fills slots) {thread : String} {fault : Fault}
    (hfault : (store.claim thread).1 = .error fault) :
    fault = busy thread ∧ (store.claim thread).2 = store := by
  by_cases hclaimed : thread ∈ store.claims
  · rw [claim_of_mem hclaimed] at hfault ⊢
    exact ⟨(Except.error.inj hfault).symm, rfl⟩
  · rw [Store.claim, if_neg hclaimed, h.load_eq] at hfault
    cases hrun : (slots thread).run? <;> simp [hrun] at hfault

theorem release (h : store.Fills slots) (thread : String) :
    (store.release thread).Fills fun other ↦
      if thread = other then ((slots thread).serve (.release thread)).2 else slots other := by
  have hkept := h.kept thread
  have hsound := h.sound thread
  have hclaims := notMem_claims_release store thread
  refine h.replace rfl ?_ ?_ ?_ fun other hother ↦ ⟨rfl, by simp [Store.release, hother]⟩
  · cases hslot : slots thread <;> rw [hslot] at hkept <;> exact hkept
  · cases slots thread <;> simp [hclaims, Slot.serve, Slot.isClaimed]
  · cases hslot : slots thread <;> rw [hslot] at hsound <;> exact hsound

theorem delete (h : store.Fills slots) (thread : String) :
    .ok (.existed (store.delete thread).1) = ((slots thread).serve (.delete thread)).1 ∧
      (store.delete thread).2.Fills fun other ↦
        if thread = other then ((slots thread).serve (.delete thread)).2 else slots other := by
  have hkept := h.kept thread
  have hclaims : thread ∉ (store.delete thread).2.claims := notMem_claims_release store thread
  have hslot : ((slots thread).serve (.delete thread)).2 = .free := by cases slots thread <;> rfl
  have hexisted : (store.delete thread).1 = (slots thread).run?.isSome := by
    rw [← Option.isSome_map, ← hkept]
    rfl
  rw [hexisted, hslot]
  refine ⟨by cases slots thread <;> rfl, h.replace rfl (lookup_delete store thread) ?_ ?_
    fun other hother ↦ ⟨lookup_delete_of_ne hother, ?_⟩⟩
  · simp [hclaims, Slot.isClaimed]
  · rintro _ ⟨⟩
  · change other ∈ (store.release thread).claims ↔ _
    simp [Store.release, hother]

/-- A call is answered as the slot of its thread says. -/
theorem outcome_make (h : store.Fills slots) (call : Call) :
    (call.make Store.vault store).1.outcome = ((slots call.thread).serve call).1 := by
  cases call with
  | save thread run =>
    change _ = ((slots thread).serve (.save thread run)).1
    cases slots thread <;> rfl
  | load thread =>
    rw [Call.make, Consult.outcome_map]
    exact (h.load thread).1
  | claim thread =>
    rw [Call.make, Consult.outcome_map]
    exact (h.claim thread).1
  | release thread =>
    change _ = ((slots thread).serve (.release thread)).1
    cases slots thread <;> rfl
  | delete thread =>
    rw [Call.make, Consult.outcome_map]
    exact (h.delete thread).1

/-- No call changes another slot than that of its thread. -/
theorem make (h : store.Fills slots) (call : Call) (hfits : call.Fits) :
    (call.make Store.vault store).2.Fills fun other ↦
      if call.thread = other then ((slots call.thread).serve call).2 else slots other := by
  cases call with
  | save thread run => exact h.save thread hfits
  | load thread =>
    rw [Call.make, Consult.outside_map]
    exact (h.load thread).2
  | claim thread =>
    rw [Call.make, Consult.outside_map]
    exact (h.claim thread).2
  | release thread => exact h.release thread
  | delete thread => exact (h.delete thread).2

end Store.Fills

/-- After any calls a store fills the slots, each of which has seen the calls of its own thread. -/
theorem Store.fills_after {limits : Limits} (hroomy : limits.roomy) {calls : List Call}
    (hfits : ∀ call ∈ calls, call.Fits) :
    (({ limits } : Store).after calls).Fills fun thread ↦ Slot.after thread calls := by
  induction calls using List.reverseRecOn with
  | nil => exact Fills.of_roomy hroomy
  | append_singleton calls call ih =>
    simp only [List.mem_append, List.mem_singleton, or_imp, forall_and, forall_eq] at hfits
    rw [after_concat]
    convert (ih hfits.1).make call hfits.2 using 2 with thread
    rw [Slot.after_concat]
    split
    · next hthread => rw [hthread]
    · rfl

/-! ### What a slot tells of the history -/

/-- What was followed by nothing but other things of a kind, once more has happened: it is this, or
this is of the kind too. -/
theorem exists_split_concat {α : Type} {happened : List α → α → Prop} {kind : α → Prop}
    {history : List α} {latest : α} :
    (∃ before event later, history ++ [latest] = before ++ event :: later ∧
        happened before event ∧ ∀ other ∈ later, kind other) ↔
      happened history latest ∨ kind latest ∧
        ∃ before event later, history = before ++ event :: later ∧
          happened before event ∧ ∀ other ∈ later, kind other := by
  constructor
  · rintro ⟨before, event, later, hsplit, hevent, hlater⟩
    rcases List.eq_nil_or_concat later with rfl | ⟨later, last, rfl⟩
    · obtain ⟨rfl, hlatest⟩ := List.append_inj' hsplit rfl
      cases hlatest
      exact .inl hevent
    · rw [List.concat_eq_append] at hsplit hlater
      rw [← List.cons_append, ← List.append_assoc] at hsplit
      obtain ⟨rfl, hlatest⟩ := List.append_inj' hsplit rfl
      cases hlatest
      simp only [List.mem_append, List.mem_singleton, or_imp, forall_and, forall_eq] at hlater
      exact .inr ⟨hlater.2, before, event, later, rfl, hevent, hlater.1⟩
  · rintro (hevent | ⟨hlatest, before, event, later, rfl, hevent, hlater⟩)
    · exact ⟨history, latest, [], rfl, hevent, by simp⟩
    · refine ⟨before, event, later ++ [latest], by simp, hevent, ?_⟩
      simp only [List.mem_append, List.mem_singleton, or_imp, forall_and, forall_eq]
      exact ⟨hlater, hlatest⟩

namespace Slot

variable {thread : String} {calls : List Call}

/-- The run in a slot is the one that was saved last, if it was not removed since. -/
theorem run?_after {run : Run} :
    (after thread calls).run? = some run ↔
      ∃ before call later, calls = before ++ call :: later ∧
        (∃ saved, call = .save thread saved ∧ run = saved.watch false) ∧
        ∀ other ∈ later, ¬ other.Replaces thread := by
  induction calls using List.reverseRecOn with
  | nil => simp [after, run?]
  | append_singleton calls call ih =>
    rw [exists_split_concat, ← ih, after_concat]
    split
    · next hthread =>
      subst hthread
      rw [run?_serve]
      cases call <;> simp [Call.Replaces, Call.thread, eq_comm]
    · next hthread =>
      cases call <;> simp_all [Call.Replaces, Call.thread, eq_comm]

/-- A slot is claimed if a claim was granted and not given back since. -/
theorem isClaimed_after :
    (after thread calls).isClaimed ↔
      ∃ before call later, calls = before ++ call :: later ∧
        (call = .claim thread ∧
          ∃ run, ((after thread before).serve call).1 = .ok (.found (some run))) ∧
        ∀ other ∈ later, ¬ other.Unclaims thread := by
  induction calls using List.reverseRecOn with
  | nil => simp [after, isClaimed]
  | append_singleton calls call ih =>
    rw [exists_split_concat, ← ih, after_concat]
    split
    · next hthread =>
      subst hthread
      exact isClaimed_serve _ call
    · next hthread =>
      have hother : ¬ call.Unclaims thread ∧ call ≠ .claim thread := by
        cases call <;> simp_all [Call.Unclaims, Call.thread]
      simp [hother]

end Slot

/-- A store with room is called any number of times, for any threads. Whatever call comes next is
answered as the slot of its thread says, which has seen the earlier calls of this thread only. The
run that is loaded is the one that was saved last, if it was not removed since, with nobody
watching. A thread is claimed if a claim to it was granted and neither given back nor removed with
its run since; then it has a run. A claim that is refused changes nothing. -/
theorem Store.serves_as_slots {limits : Limits} (hroomy : limits.roomy) {calls : List Call}
    (hfits : ∀ call ∈ calls, call.Fits) :
    let store := ({ limits } : Store).after calls
    (∀ call : Call, (call.make Store.vault store).1.outcome =
        ((Slot.after call.thread calls).serve call).1) ∧
      (∀ thread run, store.load thread = .ok (some run) ↔
        ∃ before call later, calls = before ++ call :: later ∧
          (∃ saved, call = .save thread saved ∧ run = saved.watch false) ∧
          ∀ other ∈ later, ¬ other.Replaces thread) ∧
      (∀ thread, thread ∈ store.claims ↔
        ∃ before call later, calls = before ++ call :: later ∧
          (call = .claim thread ∧
            ∃ run, ((({ limits } : Store).after before).claim thread).1 = .ok (some run)) ∧
          ∀ other ∈ later, ¬ other.Unclaims thread) ∧
      (∀ thread ∈ store.claims, ∃ run, store.load thread = .ok (some run)) ∧
      ∀ thread fault, (store.claim thread).1 = .error fault →
        fault = busy thread ∧ (store.claim thread).2 = store := by
  intro store
  have hfills : store.Fills fun thread ↦ Slot.after thread calls := fills_after hroomy hfits
  refine ⟨hfills.outcome_make, fun thread run ↦ ?load, fun thread ↦ ?claims,
    fun thread hclaimed ↦ ?held, fun thread fault ↦ hfills.claim_of_error⟩
  case load =>
    rw [hfills.load_eq, Except.ok.injEq]
    exact Slot.run?_after
  case claims =>
    rw [hfills.claimed, Slot.isClaimed_after]
    refine exists_congr fun before ↦ exists_congr fun call ↦ exists_congr fun later ↦
      and_congr_right fun hcalls ↦ and_congr_left' <| and_congr_right fun hcall ↦
        exists_congr fun run ↦ ?_
    have hbefore :
        (({ limits } : Store).after before).Fills fun thread ↦ Slot.after thread before :=
      fills_after hroomy fun other hother ↦ hfits other (hcalls ▸ List.mem_append_left _ hother)
    rw [hcall, ← (hbefore.claim thread).1]
    cases ((({ limits } : Store).after before).claim thread).1 <;> simp [Except.map]
  case held =>
    have hrun := Slot.run?_ne_none_of_isClaimed ((hfills.claimed thread).mp hclaimed)
    obtain ⟨run, hrun⟩ := Option.ne_none_iff_exists'.mp hrun
    exact ⟨run, by rw [hfills.load_eq, hrun]⟩

/-- The run of a thread is claimed, and then saved once more. Another thread is given back without
having been claimed. -/
theorem Store.serves_as_slots_claimed :
    let run (cursor : Nat) : Run :=
      { task := { instruction := "t", actor := "u", watched := true }, stage := .tool, cursor }
    let calls : List Call := [.save "t-1" (run 0), .claim "t-1", .save "t-2" (run 5),
      .release "t-2", .save "t-1" (run 1)]
    let store := ({} : Store).after calls
    ({} : Limits).roomy ∧ (∀ call ∈ calls, call.Fits) ∧
      store.load "t-1" = .ok (some ((run 1).watch false)) ∧ "t-1" ∈ store.claims ∧
      (store.claim "t-1").1 = .error (busy "t-1") ∧
      ((Call.claim "t-1").make Store.vault store).1.outcome = .error (busy "t-1") ∧
      ((Call.claim "t-2").make Store.vault store).1.outcome =
        .ok (.found (some ((run 5).watch false))) ∧
      ((Call.claim "t-3").make Store.vault store).1.outcome = .ok (.found none) := by
  intro run calls store
  have hroomy : ({} : Limits).roomy := by decide
  have hfits : ∀ call ∈ calls, call.Fits := by simp [calls, run, Call.Fits]
  obtain ⟨hanswers, hload, hclaims, -, hrefused⟩ := serves_as_slots hroomy hfits
  have hgranted : ((({} : Store).save "t-1" (run 0)).claim "t-1").1 =
      .ok (some ((run 0).watch false)) :=
    congrArg Prod.fst (claim_of_lookup (hfits (.save "t-1" (run 0)) (by simp [calls]))
      (lookup_save hroomy _ _) (by simp))
  have hclaimed : "t-1" ∈ store.claims :=
    (hclaims "t-1").mpr ⟨[.save "t-1" (run 0)], .claim "t-1", _, rfl, ⟨rfl, _, hgranted⟩,
      by simp [Call.Unclaims]⟩
  have hslot (thread : String) : Slot.after thread calls =
      if thread = "t-1" then .holding ((run 1).watch false) true
      else if thread = "t-2" then .holding ((run 5).watch false) false
      else .free := by
    by_cases hfirst : thread = "t-1"
    · simp [hfirst, Slot.after, calls, Call.thread, Slot.serve]
    · by_cases hsecond : thread = "t-2"
      · simp [hsecond, Slot.after, calls, Call.thread, Slot.serve]
      · simp [hfirst, hsecond, Ne.symm hfirst, Ne.symm hsecond, Slot.after, calls, Call.thread]
  refine ⟨hroomy, hfits, ?_, hclaimed, ?_, ?_, ?_, ?_⟩
  · exact (hload "t-1" _).mpr ⟨[.save "t-1" (run 0), .claim "t-1", .save "t-2" (run 5),
      .release "t-2"], .save "t-1" (run 1), [], rfl, ⟨_, rfl, rfl⟩, by simp⟩
  · rw [claim_of_mem hclaimed]
  all_goals
    rw [hanswers, hslot]
    simp [Call.thread, Slot.serve]

end Errand.Checkpoint
