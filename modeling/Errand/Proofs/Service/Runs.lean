import Errand.Proofs.Gateway.Messages
import Errand.Proofs.Run.Speech

/-!
# The runs of a service

Of all the calls that a service makes in a run, only that of its solver says anything, and what the
solver says is what it answers (`speaksAnswers_of_assemble`). A service that keeps its runs has them
in the store of its vault, where nobody else puts anything (`keepsLossily_of_assemble`).
-/

set_option autoImplicit false

namespace Errand

open Checkpoint (Store)
open Messaging (Household)

variable {σ α : Type}

/-! ### Calls of a household -/

/-- No call that a household serves says anything. -/
theorem Messaging.pervades_silent (house : Household σ) : house.Pervades Consult.Silent where
  answer := Consult.silent_answer
  look _ := Consult.silent_modify _
  createConversation _ := Consult.silent_modify _
  bind := .bind
  createMessage _ := Consult.silent_modify _

/-- Whether a household leaves a place alone. -/
structure Messaging.Household.Aside (house : Household σ) (place : σ → α) : Prop where
  setStore : ∀ store outside, place (house.setStore store outside) = place outside
  mint : ∀ outside, place (house.mint outside).2 = place outside

/-- No call that such a household serves reaches the place. -/
theorem Messaging.Household.Aside.pervades {house : Household σ} {place : σ → α}
    (h : house.Aside place) :
    house.Pervades fun call ↦ ∀ outside, place (call outside).2 = place outside := by
  have hcreate {β : Type} (add : Messaging.Store → String → Time.Instant →
      Except Fault (β × Messaging.Store)) (outside : σ) :
      place (Messaging.Repository.create house add outside).2 = place outside := by
    simp only [Messaging.Repository.create, Consult.modify]
    cases add (house.store outside) (house.mint outside).1 (house.now outside) with
    | error fault => rfl
    | ok added => exact (h.setStore _ _).trans (h.mint outside)
  exact
    { answer := fun _ _ ↦ rfl
      look := fun _ _ ↦ rfl
      createConversation := fun _ ↦ hcreate _
      createMessage := fun _ ↦ hcreate _
      bind := fun {_ _ call next} hcall hnext outside ↦ by
        rw [Consult.outside_bind]
        cases (call outside).1.outcome with
        | error fault => exact hcall outside
        | ok a => exact (hnext a _).trans (hcall outside) }

namespace Service

variable {settings : Settings} {around : Surroundings σ} {house : Household σ}
  {now : Time.Instant} {readFile : String → Except String String} {app : Gateway.App σ}
  {seed : Messaging.Seed} {place : σ → Store}

/-- The solver of a service says what it answers, and nobody else in its team says anything. -/
theorem speaksAnswers_of_assemble (hsilent : around.transport.Silent)
    (hrepository : around.repository = .ofStore house)
    (h : assemble settings around now readFile = .ok (app, seed)) :
    app.team.SpeaksAnswers := by
  obtain ⟨provider, registry, rfl, hregistry⟩ := app_of_assemble h
  rw [hrepository] at hregistry
  constructor
  · intro prompt
    exact Model.Binding.silent_complete _ _ hsilent
  · intro operation hmem
    exact (Messaging.pervades_silent house).operation (hregistry ▸ hmem)
  · intro request outside answer hanswer
    exact Model.Binding.join_tokens_converse _ _ _ hsilent hanswer

/-- Whether what surrounds a service keeps runs in the store at a place, which may forget, and puts
nothing there otherwise. -/
structure Surroundings.KeepsLossily (around : Surroundings σ) (place : σ → Store) : Prop where
  vault : around.vault.FollowsLossily place
  post : ∀ call outside, (place outside).Forgets (place (around.transport.post call outside).2)
  postStream : ∀ call outside,
    (place outside).Forgets (place (around.transport.postStream call outside).2)
  freshThread : ∀ outside, (place outside).Forgets (place (around.freshThread outside).2)

/-- The runs of a service that was assembled to keep them are in this store. -/
theorem keepsLossily_of_assemble (hkeeps : around.KeepsLossily place)
    (haside : house.Aside place) (hrepository : around.repository = .ofStore house)
    (hcheckpoints : settings.agent.checkpoints = true)
    (h : assemble settings around now readFile = .ok (app, seed)) :
    app.KeepsLossily place := by
  obtain ⟨provider, registry, rfl, hregistry⟩ := app_of_assemble h
  rw [hrepository] at hregistry
  have hserved := haside.pervades
  refine ⟨⟨⟨around.vault, ?_, hkeeps.vault⟩, fun inquiry outside ↦ ?_⟩, hkeeps.freshThread, ?_, ?_⟩
  · simp [Service.app, limits, hcheckpoints]
  · cases inquiry with
    | plan task =>
      obtain ⟨call, hcall⟩ := outside_planner task outside
      rw [Team.ask, Consult.outside_map, hcall]
      exact hkeeps.post call outside
    | prompt text =>
      obtain ⟨call, hcall⟩ := outside_oracle text outside
      rw [Team.ask, Consult.outside_map, hcall]
      exact hkeeps.post call outside
    | operation name parameters context =>
      simp only [Team.ask]
      cases hget : (Service.app settings around provider registry).team.registry.get? name with
      | none => exact .refl _
      | some operation =>
        have hmem : operation ∈ registry.operations := List.mem_of_find?_eq_some hget
        rw [hserved.operation (hregistry ▸ hmem) parameters context outside]
        exact .refl _
    | answer request =>
      obtain ⟨call, hcall⟩ := outside_solver request outside
      rw [Team.ask, Consult.outside_map, hcall]
      exact hkeeps.postStream call outside
  · intro recorder hrecorder actor task outside
    rw [recorder_app hrecorder, hrepository, hserved.recordTask _ actor task outside]
    exact .refl _
  · intro recorder hrecorder actor answer outside
    rw [recorder_app hrecorder, hrepository, hserved.recordAnswer _ actor answer outside]
    exact .refl _

namespace Memory

theorem aside_household : household.Aside Memory.checkpoints where
  setStore _ _ := rfl
  mint _ := rfl

/-- A service in memory keeps its runs there, if the way to its model leaves them alone. -/
theorem keepsLossily_surroundings {transport : Model.Transport Memory}
    (hpost : ∀ call (memory : Memory),
      memory.checkpoints.Forgets (transport.post call memory).2.checkpoints)
    (hpostStream : ∀ call (memory : Memory),
      memory.checkpoints.Forgets (transport.postStream call memory).2.checkpoints) :
    (surroundings transport).KeepsLossily Memory.checkpoints where
  vault :=
    { save := fun thread run ↦ (vault_follows.save thread run).lossily
      claim := fun thread ↦ (vault_follows.claim thread).lossily
      release := fun thread ↦ (vault_follows.release thread).lossily
      delete := fun thread ↦ (vault_follows.delete thread).lossily }
  post := hpost
  postStream := hpostStream
  freshThread _ := .refl _

end Memory

end Service

end Errand
