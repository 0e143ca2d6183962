import Errand.Proofs.Run.Keeping

/-!
# Requests that contend for a thread

Several requests may drive the run of one thread at the same time. Each is a `Contender`, and when
it acts it makes the one call that is due: it claims the run, makes a transition, keeps the run or
gives its claim back. Left alone, it does what `Run.resume` does (`exists_alone_resume`). A
`Contest` is played by a schedule that says who acts next, so that every interleaving of the calls
is the play of some schedule; its log tells who has done what.

`Move` is all that an act can do as far as a store in memory is concerned, and every act is such a
move (`move_act`). `Orderly` says how the store, the contenders and the log belong together: at most
one contender holds the claim, and what is kept is the run that was recorded last. Every act keeps
that so (`Orderly.act`), unless a run that nobody has claimed is recorded as done, since the claim
of somebody else is removed then.
-/

set_option autoImplicit false

namespace Errand

open Checkpoint.Store (busy)
open Scripted (lookup_kept mem_claims_kept)

variable {σ : Type}

/-- What a run has to do next: the stage, and the step if one is to be carried out. -/
def Run.due (run : Run) : Stage × Nat :=
  (run.stage, if run.stage = .tool then run.cursor else 0)

/-! ### Contenders -/

/-- Somebody who waits to resume the run of a thread, or drives it, or has come to an end. -/
inductive Contender
  | waiting (watched : Bool)
  | driving (journey : Journey)
  | ended (outcome : Except RunFault (Option Run))

namespace Contender

/-- What becomes of a contender by the answer to its claim. -/
def answered (watched : Bool) : Except RunFault (Option Run) → Contender
  | .error fault => .ended (.error fault)
  | .ok none => .ended (.ok none)
  | .ok (some run) => .driving (.moving (run.watch watched) true)

/-- What becomes of a contender by a call of its journey. -/
def proceed : Journey.Next → Contender
  | .onward journey => .driving journey
  | .ended outcome => .ended (outcome.map some)

/-- Makes the call that is due. -/
def act (team : Team σ) (thread : String) (contender : Contender) (scene : Scene σ) :
    Contender × Scene σ :=
  match contender with
  | .waiting watched =>
    let (outcome, after) := Run.claim team thread scene
    (answered watched outcome, after)
  | .driving journey =>
    let (next, after) := journey.next team thread scene
    (proceed next, after)
  | .ended outcome => (.ended outcome, scene)

/-- What a contender comes to by acts between which nobody else acts. -/
def alone (team : Team σ) (thread : String) (acts : Nat) (contender : Contender)
    (scene : Scene σ) : Contender × Scene σ :=
  match acts with
  | 0 => (contender, scene)
  | acts + 1 =>
    let (next, after) := contender.act team thread scene
    alone team thread acts next after

/-- A journey that is left alone is completed. -/
theorem exists_alone_complete (team : Team σ) (thread : String) (journey : Journey)
    (scene : Scene σ) :
    ∃ acts, alone team thread acts (.driving journey) scene =
      (.ended ((journey.complete team thread scene).1.map some),
        (journey.complete team thread scene).2) := by
  rw [Journey.complete_eq]
  rcases hnext : journey.next team thread scene with ⟨onward | outcome, after⟩
  · obtain ⟨acts, hacts⟩ := exists_alone_complete team thread onward after
    refine ⟨acts + 1, ?_⟩
    simp only [alone, act, hnext, proceed, hacts]
  · refine ⟨1, ?_⟩
    simp only [alone, act, hnext, proceed]
termination_by journey.left
decreasing_by exact Journey.nearer_next (by rw [hnext])

/-- A contender that is left alone resumes the run. -/
theorem exists_alone_resume (team : Team σ) (thread : String) (watched : Bool) (scene : Scene σ) :
    ∃ acts, alone team thread acts (.waiting watched) scene =
      (.ended (Run.resume team thread watched scene).1,
        (Run.resume team thread watched scene).2) := by
  rcases hclaim : Run.claim team thread scene with ⟨fault | _ | run, after⟩
  · exact ⟨1, by simp only [alone, act, Run.resume, hclaim, answered]⟩
  · exact ⟨1, by simp only [alone, act, Run.resume, hclaim, answered]⟩
  · obtain ⟨acts, hacts⟩ :=
      exists_alone_complete team thread (.moving (run.watch watched) true) after
    refine ⟨acts + 1, ?_⟩
    simp only [alone, act, Run.resume, hclaim, answered, hacts]
    rfl

/-- Whether a contender has calls to make before its run is done or given up. -/
def underWay : Contender → Bool
  | .driving (.moving run _) => !run.isDone
  | .driving (.recording _ _) => true
  | .driving (.releasing _) => true
  | _ => false

/-- Whether a contender has claimed its run. -/
def claimed : Contender → Bool
  | .driving (.moving _ claimed) => claimed
  | .driving (.recording _ claimed) => claimed
  | .driving (.releasing _) => true
  | _ => false

/-- Whether a contender holds the claim. -/
def holds (contender : Contender) : Bool :=
  contender.claimed && contender.underWay

@[simp] theorem holds_waiting (watched : Bool) : (waiting watched).holds = false := rfl

@[simp] theorem holds_moving (run : Run) (claimed : Bool) :
    (driving (.moving run claimed)).holds = (claimed && !run.isDone) := rfl

@[simp] theorem holds_recording (run : Run) (claimed : Bool) :
    (driving (.recording run claimed)).holds = claimed :=
  Bool.and_true claimed

@[simp] theorem holds_releasing (fault : RunFault) :
    (driving (.releasing fault)).holds = true := rfl

@[simp] theorem holds_ended (outcome : Except RunFault (Option Run)) :
    (ended outcome).holds = false := rfl

/-- Whether a contender claims its run before it drives it. -/
def Resumes : Contender → Prop
  | .driving (.moving _ claimed) => claimed = true
  | .driving (.recording _ claimed) => claimed = true
  | _ => True

/-- Whether the run of a contender is one that can be kept after its next transition. -/
def Sound (team : Team σ) : Contender → Prop
  | .driving (.moving run _) => run.stage = .done ∨ run.Ready team
  | .driving (.recording run _) => run.stage = .done ∨ run.Keepable
  | _ => True

end Contender

/-! ### One act -/

/-- An act of a contender: as what it acted, and what became of it. -/
structure Act where
  /-- The place of the contender among all. -/
  who : Nat
  /-- The contender before the act. -/
  before : Contender
  /-- The contender after it. -/
  after : Contender

/-- A transition that succeeded. -/
structure Success where
  /-- The place of the contender among all. -/
  who : Nat
  /-- The run before the transition. -/
  before : Run
  /-- The run after it. -/
  after : Run

namespace Act

/-- The transition that succeeded by an act, if one did. -/
def success? : Act → Option Success
  | ⟨who, .driving (.moving run _), .driving (.recording next _)⟩ => some ⟨who, run, next⟩
  | _ => none

/-- The run that was kept by an act, or removed because it was done. -/
def recorded? : Act → Option Run
  | ⟨_, .driving (.recording run _), .driving (.moving _ _)⟩ => some run
  | _ => none

end Act

/-- All that an act can do to a contender and to a store that keeps a run for the thread or none. -/
inductive Move (team : Team σ) (thread : String) (kept : Option Run) :
    Contender → Checkpoint.Store → Contender → Checkpoint.Store → Prop
  /-- Somebody else has claimed the run. -/
  | refused {store : Checkpoint.Store} {watched : Bool} (hclaimed : thread ∈ store.claims) :
      Move team thread kept (.waiting watched) store
        (.ended (.error (.checkpoint (busy thread)))) store
  /-- There is no run. -/
  | missed {store : Checkpoint.Store} {watched : Bool} (hfree : thread ∉ store.claims)
      (hkept : kept = none) :
      Move team thread kept (.waiting watched) store (.ended (.ok none)) store
  /-- The run is claimed. -/
  | granted {store : Checkpoint.Store} {watched : Bool} {run : Run}
      (hfree : thread ∉ store.claims) (hkept : kept = some run) :
      Move team thread kept (.waiting watched) store (.driving (.moving (run.watch watched) true))
        { store with claims := thread :: store.claims }
  /-- The run is done. -/
  | finished {store : Checkpoint.Store} {run : Run} {claimed : Bool} (hdone : run.stage = .done) :
      Move team thread kept (.driving (.moving run claimed)) store (.ended (.ok (some run))) store
  /-- The transition of a run that was claimed fails. -/
  | stopped {store : Checkpoint.Store} {run : Run} {fault : RunFault}
      (hdone : run.stage ≠ .done) :
      Move team thread kept (.driving (.moving run true)) store (.driving (.releasing fault)) store
  /-- The transition of a run that was not claimed fails. -/
  | failed {store : Checkpoint.Store} {run : Run} {fault : RunFault} (hdone : run.stage ≠ .done) :
      Move team thread kept (.driving (.moving run false)) store (.ended (.error fault)) store
  /-- The transition succeeds. -/
  | advanced {store : Checkpoint.Store} {run next : Run} {claimed : Bool} {outside after : σ}
      (hdone : run.stage ≠ .done) (hturn : run.turn team outside = (none, next, after)) :
      Move team thread kept (.driving (.moving run claimed)) store
        (.driving (.recording next claimed)) store
  /-- The run is kept after its transition, or removed if it is done. -/
  | recorded {store : Checkpoint.Store} {run : Run} {claimed : Bool} :
      Move team thread kept (.driving (.recording run claimed)) store
        (.driving (.moving run claimed)) (Scripted.kept thread run store)
  /-- The claim is given back. -/
  | released {store : Checkpoint.Store} {fault : RunFault} :
      Move team thread kept (.driving (.releasing fault)) store (.ended (.error fault))
        (store.release thread)
  /-- There is nothing left to do. -/
  | rested {store : Checkpoint.Store} {outcome : Except RunFault (Option Run)} :
      Move team thread kept (.ended outcome) store (.ended outcome) store

section Move

variable {team : Team σ} {place : σ → Checkpoint.Store} {thread : String} {kept : Option Run}

section Calls

variable {scene : Scene σ} {run next : Run} {after : σ} {claimed : Bool}

/-- A transition that succeeds. -/
theorem Contender.act_of_turn (thread : String) (claimed : Bool) (hdone : run.stage ≠ .done)
    (hturn : run.turn team scene.outside = (none, next, after)) :
    ∃ last, (driving (.moving run claimed)).act team thread scene =
      (driving (.recording next claimed), last) ∧ last.outside = after := by
  rw [← run.advance_eq_turn team scene] at hturn
  obtain ⟨hfault, rfl, rfl⟩ : _ ∧ _ ∧ _ := by simpa using hturn
  exact ⟨_, by simp only [act, Journey.next_of_success hdone hfault, proceed], rfl⟩

/-- A transition that fails. -/
theorem Contender.act_of_fault {fault : RunFault} (thread : String) (claimed : Bool)
    (hdone : run.stage ≠ .done)
    (hturn : run.turn team scene.outside = (some fault, next, after)) :
    ∃ last, (driving (.moving run claimed)).act team thread scene =
      (proceed (Journey.afterFault fault claimed), last) ∧ last.outside = after := by
  rw [← run.advance_eq_turn team scene] at hturn
  obtain ⟨hfault, rfl, rfl⟩ : _ ∧ _ ∧ _ := by simpa using hturn
  exact ⟨Journey.reportEnd false (run.advance team scene).scene,
    by simp only [act, Journey.next_of_fault hdone hfault], rfl⟩

/-- A run that is kept. -/
theorem Contender.act_of_keep (claimed : Bool)
    (hkeep : team.keep thread run scene.outside = (.ok (), after)) :
    ∃ last, (driving (.recording run claimed)).act team thread scene =
      (driving (.moving run claimed), last) ∧ last.outside = after := by
  rw [← Journey.record_eq_keep team thread run scene] at hkeep
  rcases hrecord : Journey.record team thread run scene with ⟨outcome, last⟩
  obtain ⟨rfl, rfl⟩ : outcome = .ok () ∧ last.outside = after := by simpa [hrecord] using hkeep
  exact ⟨last, by simp only [act, Journey.next, hrecord, proceed], rfl⟩

end Calls

/-- Every act is a move. -/
theorem Contender.move_act (hteam : team.KeepsIn place) {scene : Scene σ}
    (hlookup : (place scene.outside).kept.lookup thread = kept.map Run.write)
    (hkeepable : ∀ run ∈ kept, run.Keepable) (contender : Contender) :
    Move team thread kept contender (place scene.outside) (contender.act team thread scene).1
      (place (contender.act team thread scene).2.outside) := by
  cases contender with
  | waiting watched =>
    obtain ⟨after, hclaim, hplace⟩ := hteam.claim thread scene
    simp only [act, hclaim, hplace]
    by_cases hclaimed : thread ∈ (place scene.outside).claims
    · rw [Checkpoint.Store.claim_of_mem hclaimed]
      exact .refused hclaimed
    · cases kept with
      | none =>
        rw [Checkpoint.Store.claim, if_neg hclaimed,
          Checkpoint.Store.load_of_lookup_eq_none hlookup]
        exact .missed hclaimed rfl
      | some run =>
        rw [Checkpoint.Store.claim_of_lookup (hkeepable run rfl).cursor_lt hlookup hclaimed]
        exact @Move.granted _ team thread _ _ watched run hclaimed rfl
  | driving journey =>
    cases journey with
    | moving run claimed =>
      by_cases hdone : run.stage = .done
      · simp only [act, Journey.next_of_done scene hdone]
        exact .finished hdone
      have hplace := hteam.turn run scene.outside
      rcases hturn : run.turn team scene.outside with ⟨_ | fault, next, after⟩
      · obtain ⟨last, hact, hlast⟩ := act_of_turn thread claimed hdone hturn
        rw [hturn] at hplace
        rw [hact, hlast, hplace]
        exact .advanced hdone hturn
      · obtain ⟨last, hact, hlast⟩ := act_of_fault thread claimed hdone hturn
        rw [hturn] at hplace
        rw [hact, hlast, hplace]
        cases claimed with
        | false => exact .failed hdone
        | true => exact .stopped hdone
    | recording run claimed =>
      obtain ⟨after, hkeep, hplace⟩ := hteam.keep thread run scene.outside
      obtain ⟨last, hact, hlast⟩ := act_of_keep claimed hkeep
      rw [hact, hlast, hplace]
      exact .recorded
    | releasing fault =>
      have hrelease : (Journey.release team thread scene).outside =
          team.giveBack thread true scene.outside := by
        unfold Journey.release Team.giveBack
        cases team.vault <;> rfl
      simp only [act, Journey.next, hrelease, hteam.giveBack, if_true]
      exact .released
  | ended outcome => exact .rested

variable {contender next : Contender} {before after : Checkpoint.Store}

theorem Move.limits (h : Move team thread kept contender before next after) :
    after.limits = before.limits := by
  cases h with
  | recorded => exact Scripted.limits_kept _ before
  | _ => rfl

/-- What is kept after a move is what it records, or else what was kept before. -/
theorem Move.lookup (h : Move team thread kept contender before next after) (who : Nat)
    (hroomy : before.limits.roomy) (hlookup : before.kept.lookup thread = kept.map Run.write) :
    after.kept.lookup thread =
      ((Act.recorded? ⟨who, contender, next⟩).elim kept Run.unfinished).map Run.write := by
  cases h with
  | recorded => exact lookup_kept hroomy thread _
  | _ => exact hlookup

/-- Where all runs can be kept, this stays so. -/
theorem Move.sound (h : Move team thread kept contender before next after) (who : Nat)
    (hkeepable : ∀ run ∈ kept, run.Keepable) (hsound : contender.Sound team) :
    next.Sound team ∧
      ∀ run ∈ (Act.recorded? ⟨who, contender, next⟩).elim kept Run.unfinished, run.Keepable := by
  cases h with
  | granted _ hkept => exact ⟨.inr (.inl ((hkeepable _ hkept).watch _)), hkeepable⟩
  | advanced hdone hturn =>
    exact ⟨(hsound.resolve_left hdone).done_or_keepable hturn, hkeepable⟩
  | recorded =>
    refine ⟨hsound.imp_right .inl, fun left hleft ↦ ?_⟩
    obtain ⟨hdone, rfl⟩ := Run.mem_unfinished.mp hleft
    exact hsound.resolve_left hdone
  | _ => exact ⟨trivial, hkeepable⟩

/-- Whoever holds the only claim is alone. -/
theorem eq_zero_of_add_one {others : Nat} {claimed : Prop} [Decidable claimed]
    (h : others + 1 = if claimed then 1 else 0) : others = 0 := by
  split at h <;> omega

/-- The number of contenders that hold the claim. -/
theorem Move.holders (h : Move team thread kept contender before next after)
    (hkeepable : ∀ run ∈ kept, run.Keepable) {others : Nat}
    (hothers : others + (if contender.holds then 1 else 0) =
      if thread ∈ before.claims then 1 else 0)
    (hsafe : ∀ run, contender = .driving (.recording run false) → run.stage = .done →
      others = 0) :
    others + (if next.holds then 1 else 0) = if thread ∈ after.claims then 1 else 0 := by
  cases h with
  | refused _ => exact hothers
  | missed _ _ => exact hothers
  | @granted _ watched run hfree hkept =>
    have hgoes : (run.watch watched).isDone = false :=
      decide_eq_false ((hkeepable run hkept).watch watched).stage_ne_done
    have hnobody : others = 0 := by simpa [hfree] using hothers
    simp [hgoes, hnobody]
  | finished hdone => simpa [Run.isDone, hdone] using hothers
  | stopped hdone => simpa [Run.isDone, hdone] using hothers
  | failed _ => simpa using hothers
  | advanced hdone _ => simpa [Run.isDone, hdone] using hothers
  | @recorded _ run claimed =>
    simp only [mem_claims_kept, Contender.holds_recording, Contender.holds_moving] at hothers ⊢
    by_cases hdone : run.stage = .done
    · cases claimed with
      | false => simp [hsafe run rfl hdone, hdone]
      | true =>
        rw [if_pos rfl] at hothers
        simp [eq_zero_of_add_one hothers, Run.isDone, hdone]
    · simpa [Run.isDone, hdone] using hothers
  | released =>
    rw [Contender.holds_releasing, if_pos rfl] at hothers
    simp [eq_zero_of_add_one hothers, before.notMem_claims_release thread]
  | rested => exact hothers

theorem Move.resumes (h : Move team thread kept contender before next after)
    (hresumes : contender.Resumes) : next.Resumes := by
  cases h with
  | granted _ _ => rfl
  | advanced _ _ => exact hresumes
  | recorded => exact hresumes
  | _ => trivial

/-- What becomes of a contender that makes its claim. -/
theorem Move.of_waiting {watched : Bool}
    (h : Move team thread kept (.waiting watched) before next after) :
    next = if thread ∈ before.claims then .ended (.error (.checkpoint (busy thread)))
      else Contender.answered watched (.ok kept) := by
  cases h with
  | refused hclaimed => rw [if_pos hclaimed]
  | missed hfree hkept => rw [if_neg hfree, hkept, Contender.answered]
  | granted hfree hkept => rw [if_neg hfree, hkept, Contender.answered]

end Move

/-! ### Contests -/

/-- Contenders for the run of a thread. -/
structure Contest (σ : Type) where
  /-- The contenders. -/
  contenders : List Contender
  /-- What they act in. -/
  scene : Scene σ
  /-- What they have done, in order. -/
  log : List Act := []

namespace Contest

/-- One of the contenders acts. -/
def act (team : Team σ) (thread : String) (contest : Contest σ) (who : Nat) : Contest σ :=
  match contest.contenders[who]? with
  | none => contest
  | some contender =>
    let (next, scene) := contender.act team thread contest.scene
    { contenders := contest.contenders.set who next
      scene
      log := contest.log ++ [⟨who, contender, next⟩] }

/-- The contenders act one after another as a schedule says. -/
def play (team : Team σ) (thread : String) (schedule : List Nat) (contest : Contest σ) :
    Contest σ :=
  schedule.foldl (act team thread) contest

/-- Whether a contender holds the claim. -/
def held (contest : Contest σ) : Bool :=
  contest.contenders.any Contender.holds

/-- The transitions that have succeeded, in order. -/
def successes (contest : Contest σ) : List Success :=
  contest.log.filterMap Act.success?

/-- What a run has come to by the transitions that have succeeded. -/
def latest (first : Run) (contest : Contest σ) : Run :=
  (contest.successes.getLast?.map Success.after).getD first

/-- The runs that were recorded, in order. -/
def records (contest : Contest σ) : List Run :=
  contest.log.filterMap Act.recorded?

/-- The run that is kept: what is left of the one that was recorded last, or the one that was kept
at first. -/
def kept (initial : Option Run) (contest : Contest σ) : Option Run :=
  contest.records.getLast?.elim initial Run.unfinished

theorem play_nil (team : Team σ) (thread : String) (contest : Contest σ) :
    contest.play team thread [] = contest := rfl

theorem play_cons (team : Team σ) (thread : String) (who : Nat) (rest : List Nat)
    (contest : Contest σ) :
    contest.play team thread (who :: rest) =
      (contest.act team thread who).play team thread rest := rfl

theorem play_append (team : Team σ) (thread : String) (schedule rest : List Nat)
    (contest : Contest σ) :
    contest.play team thread (schedule ++ rest) =
      (contest.play team thread schedule).play team thread rest :=
  List.foldl_append

theorem act_of_getElem? {team : Team σ} {thread : String} {contest : Contest σ} {who : Nat}
    {contender next : Contender} {scene : Scene σ} (h : contest.contenders[who]? = some contender)
    (hact : contender.act team thread contest.scene = (next, scene)) :
    contest.act team thread who =
      ⟨contest.contenders.set who next, scene, contest.log ++ [⟨who, contender, next⟩]⟩ := by
  simp only [act, h, hact]

theorem held_eq_false {contest : Contest σ} :
    contest.held = false ↔ ∀ contender ∈ contest.contenders, contender.holds = false := by
  simp [held]

theorem countP_holds_eq_zero {contest : Contest σ} :
    contest.contenders.countP Contender.holds = 0 ↔ contest.held = false := by
  simp [held_eq_false, List.countP_eq_zero]

end Contest

/-- How a contest and the store belong together. -/
structure Orderly (team : Team σ) (place : σ → Checkpoint.Store) (thread : String)
    (initial : Option Run) (contest : Contest σ) : Prop where
  roomy : (place contest.scene.outside).limits.roomy
  /-- One contender holds the claim if there is one. -/
  holders : contest.contenders.countP Contender.holds =
    if thread ∈ (place contest.scene.outside).claims then 1 else 0
  /-- What is kept is the run that was recorded last. -/
  lookup : (place contest.scene.outside).kept.lookup thread =
    (contest.kept initial).map Run.write
  keepable : ∀ run ∈ contest.kept initial, run.Keepable
  sound : ∀ contender ∈ contest.contenders, contender.Sound team

section Orderly

variable {team : Team σ} {place : σ → Checkpoint.Store} {thread : String} {initial : Option Run}
variable {contest : Contest σ} {who : Nat} {contender : Contender}

/-- A contest is orderly at first, when nobody holds the claim. -/
theorem Orderly.begin {contenders : List Contender} {scene : Scene σ}
    (hroomy : (place scene.outside).limits.roomy) (hfree : thread ∉ (place scene.outside).claims)
    (hkept : (place scene.outside).kept.lookup thread = initial.map Run.write)
    (hkeepable : ∀ run ∈ initial, run.Keepable)
    (hholds : ∀ contender ∈ contenders, contender.holds = false)
    (hsound : ∀ contender ∈ contenders, contender.Sound team) :
    Orderly team place thread initial ⟨contenders, scene, []⟩ where
  roomy := hroomy
  holders := by
    rw [if_neg hfree]
    exact Contest.countP_holds_eq_zero.mpr (Contest.held_eq_false.mpr hholds)
  lookup := hkept
  keepable := hkeepable
  sound := hsound

/-- The contender that acts and the others. -/
theorem perm_of_getElem? {α : Type} {items : List α} {place : Nat} {item : α}
    (h : items[place]? = some item) : items.Perm (item :: items.eraseIdx place) := by
  obtain ⟨hlt, rfl⟩ := List.getElem?_eq_some_iff.mp h
  exact (List.getElem_cons_eraseIdx_perm hlt).symm

/-- What an act does to an orderly contest. -/
theorem Orderly.move (hteam : team.KeepsIn place) (h : Orderly team place thread initial contest)
    (hwho : contest.contenders[who]? = some contender) :
    ∃ next scene,
      contest.act team thread who =
        ⟨contest.contenders.set who next, scene, contest.log ++ [⟨who, contender, next⟩]⟩ ∧
      (contest.contenders.set who next).Perm (next :: contest.contenders.eraseIdx who) ∧
      Move team thread (contest.kept initial) contender (place contest.scene.outside) next
        (place scene.outside) := by
  obtain ⟨hlt, -⟩ := List.getElem?_eq_some_iff.mp hwho
  exact ⟨_, _, Contest.act_of_getElem? hwho rfl, List.set_perm_cons_eraseIdx hlt _,
    contender.move_act hteam h.lookup h.keepable⟩

/-- As long as a contender holds the claim, no other one does. -/
theorem Orderly.others (h : Orderly team place thread initial contest)
    (hwho : contest.contenders[who]? = some contender) (hholds : contender.holds) :
    ∀ other ∈ contest.contenders.eraseIdx who, other.holds = false := by
  have hholders := h.holders
  rw [(perm_of_getElem? hwho).countP_eq, List.countP_cons, if_pos hholds] at hholders
  simpa [List.countP_eq_zero] using eq_zero_of_add_one hholders

theorem Contest.records_concat (contest : Contest σ) (contenders : List Contender)
    (scene : Scene σ) (act : Act) :
    Contest.records ⟨contenders, scene, contest.log ++ [act]⟩ =
      contest.records ++ act.recorded?.toList := by
  cases hrecord : act.recorded? <;> simp [Contest.records, hrecord]

/-- What is kept after an act. -/
theorem Contest.kept_concat (contest : Contest σ) (contenders : List Contender) (scene : Scene σ)
    (act : Act) :
    Contest.kept initial ⟨contenders, scene, contest.log ++ [act]⟩ =
      act.recorded?.elim (contest.kept initial) Run.unfinished := by
  rw [Contest.kept, Contest.records_concat]
  cases act.recorded? <;> simp [Contest.kept]

/-- An act keeps a contest orderly, unless it records a run as done that nobody has claimed while
somebody else holds the claim. -/
theorem Orderly.act (hteam : team.KeepsIn place) (h : Orderly team place thread initial contest)
    (who : Nat)
    (hsafe : ∀ run, contest.contenders[who]? = some (.driving (.recording run false)) →
      run.stage = .done → contest.held = false) :
    Orderly team place thread initial (contest.act team thread who) := by
  cases hwho : contest.contenders[who]? with
  | none => rwa [Contest.act, hwho]
  | some contender =>
    obtain ⟨next, scene, hact, hperm, hmove⟩ := h.move hteam hwho
    have hbefore := perm_of_getElem? hwho
    have hsound := hmove.sound who h.keepable (h.sound contender (List.mem_of_getElem? hwho))
    have hholders := h.holders
    rw [hbefore.countP_eq, List.countP_cons] at hholders
    rw [hact]
    refine ⟨?_, ?_, ?_, ?_, fun other hother ↦ ?_⟩
    · rw [hmove.limits]
      exact h.roomy
    · rw [hperm.countP_eq, List.countP_cons]
      refine hmove.holders h.keepable hholders fun run hrun hdone ↦ ?_
      have hfree := hsafe run (hwho.trans (congrArg some hrun)) hdone
      have hnobody := Contest.countP_holds_eq_zero.mpr hfree
      rw [hbefore.countP_eq, List.countP_cons] at hnobody
      omega
    · rw [Contest.kept_concat]
      exact hmove.lookup who h.roomy h.lookup
    · rw [Contest.kept_concat]
      exact hsound.2
    · rcases List.mem_cons.mp (hperm.mem_iff.mp hother) with rfl | hother
      · exact hsound.1
      · exact h.sound other (hbefore.mem_iff.mpr (List.mem_cons_of_mem _ hother))

theorem Orderly.mem_claims_iff (h : Orderly team place thread initial contest) :
    thread ∈ (place contest.scene.outside).claims ↔ contest.held := by
  have hholders := h.holders
  split at hholders
  · next hclaimed =>
    refine iff_of_true hclaimed ?_
    by_contra hnobody
    rw [Contest.countP_holds_eq_zero.mpr (by simpa using hnobody)] at hholders
    cases hholders
  · next hfree => exact iff_of_false hfree (by simp [Contest.countP_holds_eq_zero.mp hholders])

/-- What comes of a claim in an orderly contest: it is refused as long as a contender holds the
claim, and else it is granted what is kept. -/
theorem Orderly.act_waiting (hteam : team.KeepsIn place)
    (h : Orderly team place thread initial contest) (watched : Bool) :
    ((Contender.waiting watched).act team thread contest.scene).1 =
      if contest.held then .ended (.error (.checkpoint (busy thread)))
      else Contender.answered watched (.ok (contest.kept initial)) := by
  rw [((Contender.waiting watched).move_act hteam h.lookup h.keepable).of_waiting]
  simp only [h.mem_claims_iff]

end Orderly

end Errand
