import Errand.Proofs.Run.Ledger
import Errand.Proofs.Service.Household

/-!
# What the collaborators of a service count

A language model is asked through a binding, which counts its questions, and the other collaborators
of a service count nothing. So nobody but the agent counts its runs and their steps
(`discreet_of_assemble`), if the ways to the model and to the vault do not.
-/

set_option autoImplicit false

namespace Errand

open Messaging (Household)

variable {σ α : Type}

/-- No call that a household serves counts anything. -/
theorem Messaging.pervades_discreet (house : Household σ) :
    house.Pervades Consult.Discreet where
  answer := Consult.discreet_answer
  look _ := Consult.discreet_modify _
  createConversation _ := Consult.discreet_modify _
  bind := .bind
  createMessage _ := Consult.discreet_modify _

namespace Model

/-- Whether no call of a transport counts runs or their steps. -/
structure Transport.Discreet (transport : Transport σ) : Prop where
  post : ∀ call, (transport.post call).Discreet
  postStream : ∀ call, (transport.postStream call).Discreet

namespace Provider

variable {provider : Provider} {transport : Transport σ} {request : Request}

theorem discreet_complete (h : transport.Discreet) :
    (provider.complete transport request).Discreet := by
  apply (h.post _).bind
  intro value
  cases Chat.readAnswer value <;> exact Consult.discreet_answer _

theorem discreet_stream (h : transport.Discreet) :
    (provider.stream transport request).Discreet :=
  (h.postStream _).bind fun _ ↦ Consult.discreet_answer _

end Provider

namespace Binding

variable {binding : Binding σ}

/-- What is reported of a question does not count runs. -/
theorem discreet_reported {ask : Consult σ α} (h : ask.Discreet) (purpose : String) :
    (binding.reported purpose ask).Discreet := by
  intro outside sample hsample
  rcases List.mem_append.mp hsample with hasked | hreport
  · exact h outside sample hasked
  · simp only [List.mem_cons, List.not_mem_nil, or_false] at hreport
    rcases hreport with rfl | rfl <;> rfl

theorem discreet_complete (h : binding.transport.Discreet) (purpose prompt : String) :
    (binding.complete purpose prompt).Discreet :=
  (discreet_reported (Provider.discreet_complete h) purpose).map _

theorem discreet_converse (h : binding.transport.Discreet) (purpose prompt : String) :
    (binding.converse purpose prompt).Discreet := by
  apply discreet_reported
  intro outside sample hsample
  let request := { binding.request prompt with stream := true }
  have hstream : (binding.provider.stream binding.transport request).Discreet :=
    Provider.discreet_stream h
  apply hstream outside sample
  cases hpieces : (binding.provider.stream binding.transport request outside).1.outcome with
  | error fault => simpa [request, hpieces] using hsample
  | ok pieces => simpa [request, hpieces] using hsample

end Binding

end Model

namespace Service

/-- Nobody in the team of a service counts runs or their steps. -/
theorem discreet_of_assemble {settings : Settings} {around : Surroundings σ} {house : Household σ}
    {now : Time.Instant} {readFile : String → Except String String} {app : Gateway.App σ}
    {seed : Messaging.Seed} (htransport : around.transport.Discreet)
    (hvault : around.vault.Discreet) (hrepository : around.repository = .ofStore house)
    (h : assemble settings around now readFile = .ok (app, seed)) : app.team.Discreet := by
  obtain ⟨provider, registry, rfl, hregistry⟩ := app_of_assemble h
  rw [hrepository] at hregistry
  constructor
  · intro task
    exact Model.Binding.discreet_complete htransport _ _
  · intro prompt
    exact Model.Binding.discreet_complete htransport _ _
  · intro operation hmem
    exact (Messaging.pervades_discreet house).operation (hregistry ▸ hmem)
  · intro request
    exact Model.Binding.discreet_converse htransport _ _
  · intro vault hsome
    obtain ⟨limits, -, rfl⟩ := Option.map_eq_some_iff.mp hsome
    exact hvault

/-- The vault of a service in memory counts nothing. -/
theorem Memory.discreet_vault : Memory.vault.Discreet where
  save _ _ _ _ hsample := by cases hsample
  claim _ _ _ hsample := by cases hsample
  release _ _ _ hsample := by cases hsample
  delete _ _ _ hsample := by cases hsample

end Service

end Errand
