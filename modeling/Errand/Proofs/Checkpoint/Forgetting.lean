import Errand.Proofs.Run.Keeping

/-!
# Stores that forget

A store in memory may lose runs: they expire, or the store is full. `Store.Forgets` says what may
become of a store then, and `Vault.FollowsLossily` and `Team.KeepsLossily` that a vault is such a
store. It may forget before and after every call, so nothing is known of it but that it makes up no
run of its own.

That is enough to know whose runs it keeps. `Store.Owned store owns` says that every run that is
kept has a task that its thread may have. Driving a run preserves this if its thread may have its
task (`Drives.owned`). If that is not known beforehand, it is enough that the first transition
succeeds: from then on the thread has nothing but the run that is driven (`Drives.owned_of_turn`).
-/

set_option autoImplicit false

namespace Errand

variable {σ α : Type}

/-! ### Whose runs a store keeps -/

namespace Checkpoint.Store

/-- What may become of a store that loses runs: a thread has the run that it had, or none. -/
structure Forgets (before after : Store) : Prop where
  limits : after.limits = before.limits
  lookup : ∀ thread, after.kept.lookup thread = none ∨
    after.kept.lookup thread = before.kept.lookup thread

theorem Forgets.refl (store : Store) : store.Forgets store :=
  ⟨rfl, fun _ ↦ .inr rfl⟩

/-- Whether every run that a store keeps can go on and has a task that its thread may have. A store
without room keeps nothing. -/
structure Owned (store : Store) (owns : String → Task → Prop) : Prop where
  room : store.limits.roomy ∨ ∀ thread, store.kept.lookup thread = none
  run : ∀ thread text, store.kept.lookup thread = some text →
    ∃ run : Run, text = run.write ∧ run.Keepable ∧ owns thread run.task

section Owned

variable {before after store : Store} {owns owns' : String → Task → Prop} {thread : String}
  {run : Run}

/-- A store that keeps nothing has nothing that anybody may not have. -/
theorem Owned.of_kept_nil (hempty : store.kept = []) : store.Owned owns where
  room := .inr fun thread ↦ by rw [hempty, List.lookup_nil]
  run thread text htext := by simp [hempty] at htext

theorem Owned.forget (h : before.Owned owns) (hforgets : before.Forgets after) :
    after.Owned owns where
  room := by
    rw [hforgets.limits]
    refine h.room.imp_right fun hnothing thread ↦ ?_
    rcases hforgets.lookup thread with hnone | hsame
    · exact hnone
    · exact hsame.trans (hnothing thread)
  run thread text htext := by
    rcases hforgets.lookup thread with hnone | hsame
    · simp [hnone] at htext
    · exact h.run thread text (hsame ▸ htext)

/-- A store without room keeps nothing. -/
theorem lookup_kept_of_full (hfull : ¬ store.limits.roomy)
    (hnothing : store.kept.lookup thread = none) (run : Run) :
    (Scripted.kept thread run store).kept.lookup thread = none := by
  by_cases hdone : run.stage = .done
  · rw [Scripted.kept_of_done hdone]
    exact store.lookup_delete thread
  · rw [Scripted.kept_of_ne_done hdone, save, if_neg hfull]
    exact hnothing

/-- After a run has been kept, or removed because it is done, its thread has nothing that it might
have had before. -/
theorem Owned.keep (h : store.Owned owns) (hrun : run.stage = .done ∨ run.Keepable)
    (hothers : ∀ other task, other ≠ thread → owns other task → owns' other task)
    (howns : owns' thread run.task) : (Scripted.kept thread run store).Owned owns' where
  room := by
    rw [Scripted.limits_kept]
    by_cases hroomy : store.limits.roomy
    · exact .inl hroomy
    · have hnothing := h.room.resolve_left hroomy
      refine .inr fun other ↦ ?_
      by_cases hother : other = thread
      · subst hother
        exact lookup_kept_of_full hroomy (hnothing other) run
      · rw [Scripted.lookup_kept_of_ne hother, hnothing]
  run other text htext := by
    by_cases hother : other = thread
    · subst hother
      by_cases hroomy : store.limits.roomy
      · rw [Scripted.lookup_kept hroomy] at htext
        obtain ⟨left, hleft, rfl⟩ := Option.map_eq_some_iff.mp htext
        obtain ⟨hdone, rfl⟩ := Run.mem_unfinished.mp hleft
        exact ⟨run, rfl, hrun.resolve_left hdone, howns⟩
      · rw [lookup_kept_of_full hroomy (h.room.resolve_left hroomy other)] at htext
        cases htext
    · rw [Scripted.lookup_kept_of_ne hother] at htext
      obtain ⟨left, hwrite, hkeepable, hleft⟩ := h.run other text htext
      exact ⟨left, hwrite, hkeepable, hothers other left.task hother hleft⟩

/-- Claiming and giving back change nothing about what is kept. -/
theorem Owned.of_kept (h : before.Owned owns) (hlimits : after.limits = before.limits)
    (hkept : after.kept = before.kept) : after.Owned owns :=
  h.forget ⟨hlimits, fun thread ↦ .inr (by rw [hkept])⟩

theorem Owned.claim (h : store.Owned owns) (thread : String) :
    (store.claim thread).2.Owned owns := by
  unfold Store.claim
  split
  · exact h
  · split
    · exact h
    · exact h
    · exact h.of_kept rfl rfl

/-- Whoever claims a run gets one that is kept, as it was but for who watches it. -/
theorem Owned.of_claim (h : store.Owned owns) (hclaim : (store.claim thread).1 = .ok (some run)) :
    ∃ left : Run, run = left.watch false ∧ left.Keepable ∧ owns thread left.task := by
  by_cases hbusy : thread ∈ store.claims
  · simp [claim_of_mem hbusy] at hclaim
  · cases hlookup : store.kept.lookup thread with
    | none =>
      simp [Store.claim, hbusy, load_of_lookup_eq_none hlookup] at hclaim
    | some text =>
      obtain ⟨left, rfl, hkeepable, howns⟩ := h.run thread text hlookup
      rw [claim_of_lookup hkeepable.cursor_lt hlookup hbusy] at hclaim
      cases hclaim
      exact ⟨left, rfl, hkeepable, howns⟩

end Owned

end Checkpoint.Store

open Checkpoint (Store)

/-! ### Vaults that forget -/

/-- Whether a call does to the store at a place what a call of the store does, but for what the
store forgets before and after it. -/
def Consult.FollowsLossily (call : Consult σ α) (place : σ → Store) (base : Consult Store α) :
    Prop :=
  ∀ outside, ∃ store, (place outside).Forgets store ∧
    (call outside).1.outcome = (base store).1.outcome ∧
    (base store).2.Forgets (place (call outside).2)

/-- Whether a vault is the store at a place, which may forget. -/
structure Vault.FollowsLossily (vault : Vault σ) (place : σ → Store) : Prop where
  save : ∀ thread run, (vault.save thread run).FollowsLossily place (Store.vault.save thread run)
  claim : ∀ thread, (vault.claim thread).FollowsLossily place (Store.vault.claim thread)
  release : ∀ thread, (vault.release thread).FollowsLossily place (Store.vault.release thread)
  delete : ∀ thread, (vault.delete thread).FollowsLossily place (Store.vault.delete thread)

/-- Whether the vault of a team is the store at a place, which may forget, and nobody else puts
anything there. -/
structure Team.KeepsLossily (team : Team σ) (place : σ → Store) : Prop where
  vault : ∃ vault, team.vault = some vault ∧ vault.FollowsLossily place
  ask : ∀ inquiry outside, (place outside).Forgets (place (team.ask inquiry outside).2)

theorem Consult.Follows.lossily {call : Consult σ α} {place : σ → Store} {base : Consult Store α}
    (h : call.Follows place base) : call.FollowsLossily place base := fun outside ↦
  ⟨place outside, .refl _, (h outside).1, (h outside).2 ▸ .refl _⟩

/-- A vault that forgets nothing is one that may forget. -/
theorem Team.KeepsIn.lossily {team : Team σ} {place : σ → Store} (h : team.KeepsIn place) :
    team.KeepsLossily place where
  vault := by
    obtain ⟨vault, hvault, hfollows⟩ := h.vault
    exact ⟨vault, hvault,
      { save := fun thread run ↦ (hfollows.save thread run).lossily
        claim := fun thread ↦ (hfollows.claim thread).lossily
        release := fun thread ↦ (hfollows.release thread).lossily
        delete := fun thread ↦ (hfollows.delete thread).lossily }⟩
  ask inquiry outside := (h.ask inquiry outside).symm ▸ .refl _

section Calls

variable {team : Team σ} {place : σ → Store} {owns owns' : String → Task → Prop} {thread : String}
  {run : Run} {outside : σ}

/-- What a call does to a store, it does to one that has forgotten something. -/
theorem Consult.FollowsLossily.owned {call : Consult σ α} {base : Consult Store α}
    (h : call.FollowsLossily place base) (hstore : (place outside).Owned owns)
    (hbase : ∀ store : Store, store.Owned owns → (base store).2.Owned owns') :
    (place (call outside).2).Owned owns' := by
  obtain ⟨store, hbefore, -, hafter⟩ := h outside
  exact (hbase store (hstore.forget hbefore)).forget hafter

/-- No transition puts anything into the store. -/
theorem Team.KeepsLossily.turn (hteam : team.KeepsLossily place) (run : Run) (outside : σ) :
    (place outside).Forgets (place (run.turn team outside).2.2) := by
  cases hinquiry : run.inquiry team with
  | error fault =>
    rw [Run.turn_of_silent outside hinquiry]
    exact .refl _
  | ok inquiry =>
    have hplace := hteam.ask inquiry outside
    rw [Run.turn_of_asked outside hinquiry]
    cases (team.ask inquiry outside).1.outcome with
    | error fault => exact hplace
    | ok value =>
      dsimp only
      cases run.settle value <;> exact hplace

theorem Team.KeepsLossily.keep (hteam : team.KeepsLossily place) (thread : String)
    (hstore : (place outside).Owned owns) (hrun : run.stage = .done ∨ run.Keepable)
    (hothers : ∀ other task, other ≠ thread → owns other task → owns' other task)
    (howns : owns' thread run.task) :
    (place (team.keep thread run outside).2).Owned owns' := by
  obtain ⟨vault, hvault, hfollows⟩ := hteam.vault
  have hkept := fun store (hstore : Store.Owned store owns) ↦ hstore.keep hrun hothers howns
  unfold Team.keep
  simp only [hvault]
  by_cases hdone : run.isDone
  · rw [if_pos hdone]
    refine (hfollows.delete thread).owned hstore fun store hstore ↦ ?_
    have hafter := hkept store hstore
    rwa [Scripted.kept, if_pos hdone] at hafter
  · rw [if_neg hdone]
    refine (hfollows.save thread run).owned hstore fun store hstore ↦ ?_
    have hafter := hkept store hstore
    rwa [Scripted.kept, if_neg hdone] at hafter

theorem Team.KeepsLossily.giveBack (hteam : team.KeepsLossily place) (claimed : Bool)
    (hstore : (place outside).Owned owns) :
    (place (team.giveBack thread claimed outside)).Owned owns := by
  obtain ⟨vault, hvault, hfollows⟩ := hteam.vault
  cases claimed with
  | false => exact hstore
  | true =>
    simp only [Team.giveBack, hvault]
    exact (hfollows.release thread).owned hstore fun store hstore ↦ hstore.of_kept rfl rfl

/-- A claim leaves what is kept as it is, and grants what is kept. -/
theorem Team.KeepsLossily.claim (hteam : team.KeepsLossily place) (thread : String)
    {scene : Scene σ} (hstore : (place scene.outside).Owned owns) :
    (place (Run.claim team thread scene).2.outside).Owned owns ∧
      ∀ run, (Run.claim team thread scene).1 = .ok (some run) →
        ∃ left : Run, run = left.watch false ∧ left.Keepable ∧ owns thread left.task := by
  obtain ⟨vault, hvault, hfollows⟩ := hteam.vault
  obtain ⟨store, hbefore, houtcome, hafter⟩ := hfollows.claim thread scene.outside
  have hstore' := hstore.forget hbefore
  simp only [Run.claim, hvault, Scene.outcome_consult, Scene.outside_consult]
  refine ⟨(hstore'.claim thread).forget hafter, fun run hrun ↦ hstore'.of_claim ?_⟩
  rw [houtcome] at hrun
  change (store.claim thread).1.mapError RunFault.checkpoint = _ at hrun
  cases hclaim : (store.claim thread).1 with
  | error fault => simp [hclaim, Except.mapError] at hrun
  | ok granted => simpa [hclaim, Except.mapError] using hrun

/-- A run whose thread may have its task is driven. -/
theorem Run.Drives.owned (hteam : team.KeepsLossily place) {claimed : Bool} {after : σ}
    {outcome : Except RunFault Run} (h : run.Drives team thread claimed outside outcome after)
    (hrun : run.stage = .done ∨ run.Ready team) (howns : owns thread run.task)
    (hstore : (place outside).Owned owns) : (place after).Owned owns := by
  induction h with
  | finished _ => exact hstore
  | @stopped run next outside after fault _ hturn =>
    have hforgets := hteam.turn run outside
    rw [hturn] at hforgets
    exact hteam.giveBack claimed (hstore.forget hforgets)
  | @lost run next outside between after fault hdone hturn hkeep =>
    have hforgets := hteam.turn run outside
    rw [hturn] at hforgets
    have hnext := (hrun.resolve_left hdone).done_or_keepable hturn
    have hkept := hteam.keep thread (hstore.forget hforgets) hnext
      (fun _ _ _ ↦ id) (task_of_turn hturn ▸ howns)
    rw [hkeep] at hkept
    exact hteam.giveBack claimed hkept
  | @onward run next outside between kept after outcome hdone hturn hkeep _ ih =>
    have hforgets := hteam.turn run outside
    rw [hturn] at hforgets
    have hnext := (hrun.resolve_left hdone).done_or_keepable hturn
    have hkept := hteam.keep thread (hstore.forget hforgets) hnext
      (fun _ _ _ ↦ id) (task_of_turn hturn ▸ howns)
    rw [hkeep] at hkept
    exact ih (hnext.imp_right .inl) (task_of_turn hturn ▸ howns) hkept

/-- A run whose first transition fails leaves the store as it is. -/
theorem Run.Drives.owned_of_fault (hteam : team.KeepsLossily place) {claimed : Bool} {after : σ}
    {outcome : Except RunFault Run} (h : run.Drives team thread claimed outside outcome after)
    (hturn : (run.turn team outside).1 ≠ none) (hstore : (place outside).Owned owns) :
    (place after).Owned owns := by
  cases h with
  | finished _ => exact hstore
  | stopped _ hturn' =>
    have hforgets := hteam.turn run outside
    rw [hturn'] at hforgets
    exact hteam.giveBack claimed (hstore.forget hforgets)
  | lost _ hturn' _ => simp [hturn'] at hturn
  | onward _ hturn' _ _ => simp [hturn'] at hturn

/-- Once the first transition of a run has succeeded, its thread has nothing that it might have had
before. -/
theorem Run.Drives.owned_of_turn (hteam : team.KeepsLossily place) {claimed : Bool} {after : σ}
    {outcome : Except RunFault Run} (h : run.Drives team thread claimed outside outcome after)
    (hturn : (run.turn team outside).1 = none) (hrun : run.Ready team)
    (hothers : ∀ other task, other ≠ thread → owns other task → owns' other task)
    (howns : owns' thread run.task) (hstore : (place outside).Owned owns) :
    (place after).Owned owns' := by
  rcases hmade : run.turn team outside with ⟨fault, next, between⟩
  obtain rfl : fault = none := by simpa [hmade] using hturn
  have hforgets := hteam.turn run outside
  rw [hmade] at hforgets
  have hnext := hrun.done_or_keepable hmade
  have hkept := hteam.keep thread (hstore.forget hforgets) hnext hothers
    (task_of_turn hmade ▸ howns)
  cases h with
  | finished hdone =>
    rw [turn_of_silent outside (by rw [inquiry, hdone])] at hmade
    cases hmade
  | stopped _ hturn' => simp [hturn'] at hmade
  | lost _ hturn' hkeep =>
    obtain ⟨rfl, rfl⟩ : _ ∧ _ := by simpa [hmade] using hturn'
    rw [hkeep] at hkept
    exact hteam.giveBack claimed hkept
  | onward _ hturn' hkeep hrest =>
    obtain ⟨rfl, rfl⟩ : _ ∧ _ := by simpa [hmade] using hturn'
    rw [hkeep] at hkept
    exact hrest.owned hteam (hnext.imp_right .inl) (task_of_turn hmade ▸ howns) hkept

end Calls

end Errand
