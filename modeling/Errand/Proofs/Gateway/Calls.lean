import Errand.Proofs.Gateway.Likeness

/-!
# What the collaborators of a service are asked

`App.logged` is a service whose collaborators write down every call that they get: those of the
runs, of the vault, of the messaging service, of whoever suggests replies and of the source of
threads. Nothing else changes (`outside_logged`). Who watches a run is not written down.

A service is heedless if its planner and its vault do not care who watches (`App.Heedless`). No
other collaborator is told.
-/

set_option autoImplicit false

namespace Errand

variable {σ α : Type}

/-- A call of a collaborator. -/
inductive Call
  /-- An inquiry of a run. -/
  | ask (inquiry : Inquiry)
  /-- A call of the vault. -/
  | save (thread : String) (run : Run)
  | load (thread : String)
  | claim (thread : String)
  | release (thread : String)
  | delete (thread : String)
  /-- A call of the messaging service. -/
  | findUser (id : String)
  | searchUsers (name : String)
  | createConversation (participants : List String)
  | findConversation (id : String)
  | findConversationOf (participants : List String)
  | conversationsOf (user : String)
  | createMessage (draft : Messaging.Draft)
  | listMessages (filter : Messaging.Filter) (page : Messaging.Page)
  | countMessages (filter : Messaging.Filter)
  /-- To suggest replies. -/
  | suggest (lines : List Messaging.Line)
  /-- To mint the id of a thread. -/
  | freshThread

/-! ### Calls that are written down -/

/-- A call that is written down. -/
def Consult.logged (call : Call) (consult : Consult σ α) : Consult (σ × List Call) α :=
  fun (outside, log) ↦ ((consult outside).1, (consult outside).2, log ++ [call])

/-- A vault that writes down its calls. -/
def Vault.logged (vault : Vault σ) : Vault (σ × List Call) where
  save thread run := (vault.save thread run).logged (.save thread (run.watch false))
  load thread := (vault.load thread).logged (.load thread)
  claim thread := (vault.claim thread).logged (.claim thread)
  release thread := (vault.release thread).logged (.release thread)
  delete thread := (vault.delete thread).logged (.delete thread)

/-- An operation that writes down how it is invoked. -/
def Operation.logged (operation : Operation σ) : Operation (σ × List Call) where
  info := operation.info
  invoke parameters context :=
    (operation.invoke parameters context).logged
      (.ask (.operation operation.name parameters context))

/-- A team that writes down its calls. -/
def Team.logged (team : Team σ) : Team (σ × List Call) where
  planner task := (team.planner task).logged (.ask ((Inquiry.plan task).watch false))
  oracle text := (team.oracle text).logged (.ask (.prompt text))
  solver request := (team.solver request).logged (.ask (.answer request))
  registry := { operations := team.registry.operations.map Operation.logged }
  vault := team.vault.map Vault.logged
  solverInput := team.solverInput

namespace Messaging

/-- A messaging service that writes down its calls. -/
def Repository.logged (repository : Repository σ) : Repository (σ × List Call) where
  findUser id := (repository.findUser id).logged (.findUser id)
  searchUsers name := (repository.searchUsers name).logged (.searchUsers name)
  createConversation participants :=
    (repository.createConversation participants).logged (.createConversation participants)
  findConversation id := (repository.findConversation id).logged (.findConversation id)
  findConversationOf participants :=
    (repository.findConversationOf participants).logged (.findConversationOf participants)
  conversationsOf user := (repository.conversationsOf user).logged (.conversationsOf user)
  createMessage draft := (repository.createMessage draft).logged (.createMessage draft)
  listMessages filter page :=
    (repository.listMessages filter page).logged (.listMessages filter page)
  countMessages filter := (repository.countMessages filter).logged (.countMessages filter)

/-- A recorder whose messaging service writes down its calls. -/
def Recorder.logged (recorder : Recorder σ) : Recorder (σ × List Call) where
  repository := recorder.repository.logged
  assistant := recorder.assistant

/-- A suggester of replies that writes down its calls. -/
def SmartReplies.logged (replies : SmartReplies σ) : SmartReplies (σ × List Call) where
  repository := replies.repository.logged
  suggest lines := (replies.suggest lines).logged (.suggest lines)
  window := replies.window
  now := fun (outside, _) ↦ replies.now outside

end Messaging

namespace Gateway

/-- A service whose collaborators write down their calls. -/
def App.logged (app : App σ) : App (σ × List Call) where
  team := app.team.logged
  recorder := app.recorder.map Messaging.Recorder.logged
  smartReplies := app.smartReplies.map Messaging.SmartReplies.logged
  freshThread := fun (outside, log) ↦
    ((app.freshThread outside).1, (app.freshThread outside).2, log ++ [.freshThread])
  elapsed := fun (outside, _) ↦ app.elapsed outside

/-- Whether the collaborators of a service do not care who watches. -/
structure App.Heedless (app : App σ) : Prop where
  planner : ∀ task watched,
    (app.team.planner task).Alike Eq (app.team.planner { task with watched := watched })
  save : ∀ vault ∈ app.team.vault, ∀ thread run watched,
    (vault.save thread run).Alike Eq (vault.save thread (run.watch watched))

end Gateway

/-! ### Nothing else changes -/

/-- Whether a state is what it is beside the calls that were written down. -/
def Beneath (outside : σ) (noted : σ × List Call) : Prop :=
  noted.1 = outside

section Logged

variable {call call' : Consult σ α}

/-- A call behaves alike if it is written down. -/
theorem Consult.Alike.beneath (h : call.Alike Eq call') (note : Call) :
    call.Alike Beneath (call'.logged note) := by
  rintro outside ⟨_, log⟩ rfl
  exact ⟨(h rfl).1, (h rfl).2.symm⟩

/-- Calls that behave alike do so if they are written down in the same way. -/
theorem Consult.Alike.logged (h : call.Alike Eq call') (note : Call) :
    (call.logged note).Alike Eq (call'.logged note) := by
  rintro ⟨outside, log⟩ _ rfl
  exact ⟨(h rfl).1, Prod.ext (h rfl).2 rfl⟩

theorem Messaging.Repository.Alike.refl (repository : Messaging.Repository σ) :
    repository.Alike Eq repository where
  findUser _ := .refl _
  searchUsers _ := .refl _
  createConversation _ := .refl _
  findConversation _ := .refl _
  findConversationOf _ := .refl _
  conversationsOf _ := .refl _
  createMessage _ := .refl _
  listMessages _ _ := .refl _
  countMessages _ := .refl _

theorem Registry.get?_logged (team : Team σ) (name : String) :
    team.logged.registry.get? name = (team.registry.get? name).map Operation.logged := by
  simp only [Registry.get?, Team.logged, List.find?_map]
  rfl

theorem Vault.Alike.beneath {vault vault' : Vault σ} (h : vault.Alike Eq vault') :
    vault.Alike Beneath vault'.logged where
  save thread run watched := (h.save thread run watched).beneath _
  load thread := (h.load thread).beneath _
  claim thread := (h.claim thread).beneath _
  release thread := (h.release thread).beneath _
  delete thread := (h.delete thread).beneath _

theorem Team.Alike.beneath {team team' : Team σ} (h : team.Alike Eq team') :
    team.Alike Beneath team'.logged where
  planner task watched := (h.planner task watched).beneath _
  oracle text := (h.oracle text).beneath _
  solver request := (h.solver request).beneath _
  registry name := by
    have hname := h.registry name
    rw [Registry.get?_logged]
    generalize team.registry.get? name = found, team'.registry.get? name = found' at hname ⊢
    cases hname with
    | none => exact .none
    | some hoperation =>
      exact .some fun parameters context ↦ (hoperation parameters context).beneath _
  vault := by
    have hvault := h.vault
    simp only [Team.logged]
    generalize team.vault = vault, team'.vault = vault' at hvault ⊢
    cases hvault with
    | none => exact .none
    | some hvault => exact .some hvault.beneath
  solverInput := h.solverInput

theorem Messaging.Repository.Alike.beneath {repository repository' : Messaging.Repository σ}
    (h : repository.Alike Eq repository') : repository.Alike Beneath repository'.logged where
  findUser id := (h.findUser id).beneath _
  searchUsers name := (h.searchUsers name).beneath _
  createConversation participants := (h.createConversation participants).beneath _
  findConversation id := (h.findConversation id).beneath _
  findConversationOf participants := (h.findConversationOf participants).beneath _
  conversationsOf user := (h.conversationsOf user).beneath _
  createMessage draft := (h.createMessage draft).beneath _
  listMessages filter page := (h.listMessages filter page).beneath _
  countMessages filter := (h.countMessages filter).beneath _

end Logged

namespace Gateway

variable {app app' : App σ}

/-- Services that behave alike do so if the calls of one of them are written down. -/
theorem App.Alike.beneath (h : app.Alike Eq app') : app.Alike Beneath app'.logged where
  team := h.team.beneath
  recorder := by
    have hrecorder := h.recorder
    simp only [App.logged]
    generalize app.recorder = recorder, app'.recorder = recorder' at hrecorder ⊢
    cases hrecorder with
    | none => exact .none
    | some hrecorder => exact .some ⟨hrecorder.repository.beneath, hrecorder.assistant⟩
  smartReplies := by
    have hreplies := h.smartReplies
    simp only [App.logged]
    generalize app.smartReplies = replies, app'.smartReplies = replies' at hreplies ⊢
    cases hreplies with
    | none => exact .none
    | some hreplies =>
      refine .some ⟨hreplies.repository.beneath, fun lines ↦ (hreplies.suggest lines).beneath _,
        hreplies.window, ?_⟩
      rintro outside ⟨_, log⟩ rfl
      exact hreplies.now rfl
  freshThread := by
    rintro outside ⟨_, log⟩ rfl
    exact ⟨(h.freshThread rfl).1, (h.freshThread rfl).2.symm⟩

/-- A heedless service behaves like itself, whoever watches. -/
theorem App.Heedless.alike (h : app.Heedless) : app.Alike Eq app where
  team :=
    { planner := h.planner
      oracle := fun _ ↦ .refl _
      solver := fun _ ↦ .refl _
      registry := fun name ↦ by
        cases app.team.registry.get? name with
        | none => exact .none
        | some operation => exact .some fun _ _ ↦ .refl _
      vault := by
        cases hvault : app.team.vault with
        | none => exact .none
        | some vault =>
          exact .some ⟨h.save vault hvault, fun _ ↦ .refl _, fun _ ↦ .refl _, fun _ ↦ .refl _,
            fun _ ↦ .refl _⟩
      solverInput := rfl }
  recorder := by
    cases app.recorder with
    | none => exact .none
    | some recorder => exact .some ⟨.refl _, rfl⟩
  smartReplies := by
    cases app.smartReplies with
    | none => exact .none
    | some replies =>
      refine .some ⟨.refl _, fun _ ↦ .refl _, rfl, ?_⟩
      rintro outside _ rfl
      rfl
  freshThread := by
    rintro outside _ rfl
    exact ⟨rfl, rfl⟩

/-- A heedless service is heedless if its calls are written down. -/
theorem App.Heedless.logged (h : app.Heedless) : app.logged.Heedless where
  planner task watched := (h.planner task watched).logged _
  save := by
    intro vault hvault thread run watched
    obtain ⟨plain, hplain, rfl⟩ := Option.map_eq_some_iff.mp hvault
    exact (h.save plain hplain thread run watched).logged _

/-! ### The calls for requests -/

/-- What collaborators are asked for requests that are handled one after another, and for a run in
the end. -/
def calls (app : App σ) (visits : List (String × Request)) (order : Order) (outside : σ) :
    List Call :=
  (order.serve app.logged (handleAll app.logged visits { outside := (outside, []) })).2.outside.2

/-- To write down the calls leads to the same. -/
theorem outside_logged (h : app.Heedless) (visits : List (String × Request)) (order : Order)
    (scene : Scene σ) :
    (order.serve app.logged
        (handleAll app.logged visits { outside := (scene.outside, []) })).2.outside =
      ((order.serve app (handleAll app visits scene)).2.outside,
        calls app visits order scene.outside) := by
  have hvisits : VisitsAlike visits visits := VisitsAlike.refl visits
  obtain ⟨b, horder⟩ := Order.Abreast.refl order
  let logged : Scene (σ × List Call) := { outside := (scene.outside, []) }
  have hbegin : Beneath scene.outside logged.outside := rfl
  have happ := h.alike.beneath
  have hserved := (serve_alike happ horder (handleAll_alike happ hvisits hbegin)).1
  exact Prod.ext hserved rfl

end Gateway

end Errand
