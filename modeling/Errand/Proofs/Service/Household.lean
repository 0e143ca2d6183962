import Errand.Proofs.Model.Speaking
import Errand.Proofs.Run.Sending
import Errand.Service.Memory

/-!
# The messages of a service

A service that keeps everything in memory has its messages there, apart from its runs and its ids.
They are tidy if no id comes twice and none is that of a conversation already (`Memory.tidy`), which
holds of a service that begins with a seed and ids of its own. Its language model reaches them
through operations only, if the way to the model does not touch them (`sendsIn_team`).
-/

set_option autoImplicit false

namespace Errand

open Messaging (Household)

variable {σ : Type}

/-! ### How a service begins -/

theorem Entries.mem_set {α : Type} {name : String} {value : α} {entry : String × α}
    {entries : List (String × α)} (h : entry ∈ Entries.set name value entries) :
    entry = (name, value) ∨ entry ∈ entries := by
  induction entries with
  | nil => exact .inl (List.mem_singleton.mp h)
  | cons first rest ih =>
    obtain ⟨n, v⟩ := first
    rw [Entries.set] at h
    split at h
    · next hname =>
      rcases List.mem_cons.mp h with hfirst | hrest
      · exact .inl (by rw [hfirst, hname])
      · exact .inr (List.mem_cons_of_mem _ hrest)
    · rcases List.mem_cons.mp h with hfirst | hrest
      · exact .inr (hfirst ▸ List.mem_cons_self)
      · exact (ih hrest).imp_right (List.mem_cons_of_mem _)

/-- The conversations of a seed are found under their own ids. -/
theorem Messaging.Seed.keyed_store (seed : Messaging.Seed) :
    ∀ entry ∈ seed.store.conversations, entry.2.id = entry.1 := by
  suffices h : ∀ (added : List Messaging.Conversation) entries,
      (∀ entry ∈ entries, entry.2.id = entry.1) →
      ∀ entry ∈ added.foldl (fun entries conversation ↦
        Entries.set conversation.id conversation entries) entries, entry.2.id = entry.1 from
    h seed.conversations [] (by simp)
  intro added
  induction added with
  | nil => exact fun _ hentries ↦ hentries
  | cons conversation rest ih =>
    refine fun entries hentries ↦ ih _ fun entry hentry ↦ ?_
    rcases Entries.mem_set hentry with rfl | hold
    · rfl
    · exact hentries entry hold

/-- Operations that have been registered one after another stand in this order. -/
theorem Registry.operations_of_registerAll {registry registered : Registry σ}
    {operations : List (Operation σ)} (h : registry.registerAll operations = .ok registered) :
    registered.operations = registry.operations ++ operations := by
  induction operations generalizing registry with
  | nil =>
    cases h
    rw [List.append_nil]
  | cons operation rest ih =>
    rw [Registry.registerAll, List.foldlM_cons] at h
    cases hregister : registry.register operation with
    | error fault => simp [hregister, bind, Except.bind] at h
    | ok next =>
      simp only [hregister] at h
      rw [ih h]
      unfold Registry.register at hregister
      split at hregister
      · cases hregister
      · split at hregister
        · cases hregister
        · split at hregister
          · cases hregister
          · cases hregister
            rw [List.append_assoc, List.singleton_append]

/-- Operations are registered if each has a name of its own, which may be used. -/
theorem Registry.registerAll_of_names {registry : Registry σ} {operations : List (Operation σ)}
    (hfree : ∀ operation ∈ operations,
      Text.isAllBlank operation.name = false ∧ operation.name ≠ modelName)
    (hdistinct : (registry.names ++ operations.map (·.name)).Nodup) :
    registry.registerAll operations = .ok ⟨registry.operations ++ operations⟩ := by
  induction operations generalizing registry with
  | nil => rw [List.append_nil]; rfl
  | cons operation rest ih =>
    obtain ⟨⟨hblank, hmodel⟩, hrest⟩ := List.forall_mem_cons.mp hfree
    have hnew : registry.contains operation.name = false := by
      rw [List.nodup_append] at hdistinct
      simp only [contains, List.any_eq_false, beq_iff_eq]
      intro other hother hsame
      exact hdistinct.2.2 _ (List.mem_map_of_mem hother) _ (by simp) hsame
    have hregister : registry.register operation = .ok ⟨registry.operations ++ [operation]⟩ := by
      simp [register, hblank, hmodel, hnew]
    rw [registerAll, List.foldlM_cons, hregister]
    have hnext := @ih ⟨registry.operations ++ [operation]⟩ hrest (by simpa [names] using hdistinct)
    rw [List.append_assoc, List.singleton_append] at hnext
    exact hnext

/-- The messaging operations can be registered together. -/
theorem Messaging.registerAll_operations (repository : Messaging.Repository σ)
    (assistant : String) :
    ({} : Registry σ).registerAll (Messaging.operations repository assistant) =
      .ok ⟨Messaging.operations repository assistant⟩ := by
  let names := ["SearchUserByName", "FindConversationIdByParticipants", "CreateNewConversation",
    "GetMessagesByConversation", "ListUserConversations", "GetLastSentMessages",
    "GetConversationMessagesBetweenUsers", "SendMessage", "GetUserDetails",
    "GetUserMessageStatistics", "GetConversationStatistics", "SearchUserMessages"]
  have hnames : (Messaging.operations repository assistant).map (·.name) = names := rfl
  have hfree : ∀ name ∈ names, Text.isAllBlank name = false ∧ name ≠ modelName := by decide +kernel
  refine Registry.registerAll_of_names (fun operation hmem ↦ hfree operation.name ?_) ?_
  · rw [← hnames]
    exact List.mem_map_of_mem hmem
  · rw [hnames]
    change names.Nodup
    decide
namespace Service

namespace Memory

theorem idAt_household (n : Nat) (memory : Memory) :
    household.idAt n memory = memory.ids (memory.minted + n) := by
  induction n generalizing memory with
  | zero => rfl
  | succ n ih =>
    rw [Household.idAt, ih]
    simp only [household, mint]
    congr 1
    omega

theorem lawful_household : household.Lawful where
  store_setStore _ _ := rfl
  store_mint _ := rfl
  idAt_setStore n store memory := by rw [idAt_household, idAt_household]; rfl

/-- The messages of a service are tidy if its conversations are found under their own ids, no id
comes twice, and none that is to come is that of a conversation. -/
theorem tidy {memory : Memory}
    (hkeyed : ∀ entry ∈ memory.messages.conversations, entry.2.id = entry.1)
    (hdistinct : ∀ m n, memory.ids m = memory.ids n → m = n)
    (hunused : ∀ n, memory.ids (memory.minted + n) ∉
      Entries.names memory.messages.conversations) : household.Tidy memory where
  keyed := hkeyed
  distinct m n hmn := by
    rw [idAt_household, idAt_household] at hmn
    exact Nat.add_left_cancel (hdistinct _ _ hmn)
  unused n := by
    rw [idAt_household]
    exact hunused n

theorem beside_mint (memory : Memory) : household.Beside memory memory.mint.2 where
  store := rfl
  ids := ⟨1, fun n ↦ by
    rw [idAt_household, idAt_household]
    simp only [mint]
    congr 1
    omega⟩

theorem beside_checkpoints {α : Type} (call : Consult Checkpoint.Store α) (memory : Memory) :
    household.Beside memory (inCheckpoints call memory).2 :=
  ⟨rfl, 0, fun n ↦ by rw [idAt_household, idAt_household]; rfl⟩

theorem leavesAlone_vault : vault.LeavesAlone household where
  save _ _ := beside_checkpoints _
  claim _ := beside_checkpoints _
  release _ := beside_checkpoints _
  delete _ := beside_checkpoints _

end Memory

/-- A service that was assembled answers through some provider, and has the messaging operations. -/
theorem app_of_assemble {settings : Settings} {around : Surroundings σ} {now : Time.Instant}
    {readFile : String → Except String String} {app : Gateway.App σ} {seed : Messaging.Seed}
    (h : assemble settings around now readFile = .ok (app, seed)) :
    ∃ provider registry, app = Service.app settings around provider registry ∧
      registry.operations = Messaging.operations around.repository settings.agent.assistant := by
  unfold assemble at h
  cases hprovider : Service.provider settings.languageModel with
  | error fault => simp [hprovider, Except.mapError, bind, Except.bind] at h
  | ok provider =>
    cases hseed : Service.seed now readFile settings.agent with
    | error fault => simp [hprovider, hseed, Except.mapError, bind, Except.bind] at h
    | ok found =>
      cases hregister : ({} : Registry σ).registerAll
          (Messaging.operations around.repository settings.agent.assistant) with
      | error fault => simp [hprovider, hseed, hregister, Except.mapError, bind, Except.bind] at h
      | ok registry =>
        simp only [hprovider, hseed, hregister, Except.mapError, bind, Except.bind] at h
        split at h
        · cases h
          exact ⟨provider, registry, rfl, Registry.operations_of_registerAll hregister⟩
        · cases h

section App

variable {settings : Settings} {around : Surroundings σ} {provider : Model.Provider}
  {registry : Registry σ}

/-- To everything outside, a planner, an oracle or a solver is one call of the transport. -/
theorem outside_planner (task : Task) (outside : σ) :
    ∃ call, ((app settings around provider registry).team.planner task outside).2 =
      (around.transport.post call outside).2 :=
  ⟨_, Model.Binding.outside_complete _ _ outside⟩

theorem outside_oracle (prompt : String) (outside : σ) :
    ∃ call, ((app settings around provider registry).team.oracle prompt outside).2 =
      (around.transport.post call outside).2 :=
  ⟨_, Model.Binding.outside_complete _ _ outside⟩

theorem outside_solver (request : SolverRequest) (outside : σ) :
    ∃ call, ((app settings around provider registry).team.solver request outside).2 =
      (around.transport.postStream call outside).2 :=
  ⟨_, Model.Binding.outside_converse _ _ outside⟩

/-- A service that records exchanges does so in its repository. -/
theorem recorder_app {recorder : Messaging.Recorder σ}
    (h : recorder ∈ (app settings around provider registry).recorder) :
    recorder = ⟨around.repository, settings.agent.assistant⟩ := by
  change recorder ∈ (if settings.agent.recordExchanges then
    some (⟨around.repository, settings.agent.assistant⟩ : Messaging.Recorder σ) else none) at h
  split at h
  · exact (Option.mem_some.mp h).symm
  · cases h

end App

/-- Whether what surrounds a service keeps the messages in a household and leaves them alone
otherwise. -/
structure Surroundings.SendsIn (around : Surroundings σ) (house : Household σ) : Prop where
  lawful : house.Lawful
  repository : around.repository = .ofStore house
  post : ∀ call outside, house.Beside outside (around.transport.post call outside).2
  postStream : ∀ call outside, house.Beside outside (around.transport.postStream call outside).2
  vault : around.vault.LeavesAlone house
  freshThread : ∀ outside, house.Beside outside (around.freshThread outside).2

/-- The language model of a service reaches messages through operations only. -/
theorem sendsIn_team {settings : Settings} {around : Surroundings σ} {house : Household σ}
    (haround : around.SendsIn house) (provider : Model.Provider) {registry : Registry σ}
    (hregistry : registry.operations =
      Messaging.operations around.repository settings.agent.assistant) :
    (app settings around provider registry).team.SendsIn house settings.agent.assistant where
  lawful := haround.lawful
  operations := haround.repository ▸ hregistry
  planner task outside := by
    obtain ⟨call, hcall⟩ := outside_planner task outside
    rw [hcall]
    exact haround.post call outside
  oracle prompt outside := by
    obtain ⟨call, hcall⟩ := outside_oracle prompt outside
    rw [hcall]
    exact haround.post call outside
  solver request outside := by
    obtain ⟨call, hcall⟩ := outside_solver request outside
    rw [hcall]
    exact haround.postStream call outside
  vault vault hvault := by
    obtain ⟨limits, -, rfl⟩ := Option.map_eq_some_iff.mp (Option.mem_def.mp hvault)
    exact haround.vault

/-- A service in memory keeps its messages there, if the way to its model leaves them alone. -/
theorem Memory.sendsIn_surroundings {transport : Model.Transport Memory}
    (hpost : ∀ call memory, household.Beside memory (transport.post call memory).2)
    (hpostStream : ∀ call memory, household.Beside memory (transport.postStream call memory).2) :
    (surroundings transport).SendsIn household where
  lawful := lawful_household
  repository := rfl
  post := hpost
  postStream := hpostStream
  vault := leavesAlone_vault
  freshThread := beside_mint

/-- A service whose settings choose a provider, a seed and possible limits is assembled. -/
theorem assemble_eq {settings : Settings} {around : Surroundings σ} {now : Time.Instant}
    {readFile : String → Except String String} {provider : Model.Provider} {seed : Messaging.Seed}
    (hprovider : Service.provider settings.languageModel = .ok provider)
    (hseed : Service.seed now readFile settings.agent = .ok seed)
    (hlimits : (limits settings.agent).all (·.feasible)) :
    assemble settings around now readFile =
      .ok (app settings around provider
        ⟨Messaging.operations around.repository settings.agent.assistant⟩, seed) := by
  simp [assemble, hprovider, hseed, hlimits, Messaging.registerAll_operations, Except.mapError,
    bind, Except.bind, pure, Except.pure]

/-- Such a service can be started, and its messages begin with the seed. -/
theorem start_eq {settings : Settings} {transport : Model.Transport Memory} {now : Time.Instant}
    {ids : Nat → String} {readFile : String → Except String String} {provider : Model.Provider}
    {seed : Messaging.Seed} (hprovider : Service.provider settings.languageModel = .ok provider)
    (hseed : Service.seed now readFile settings.agent = .ok seed)
    (hlimits : (limits settings.agent).all (·.feasible)) :
    start settings transport now ids readFile =
      .ok { app := app settings (Memory.surroundings transport) provider
              ⟨Messaging.operations (.ofStore Memory.household) settings.agent.assistant⟩
            memory :=
              { messages := seed.store
                checkpoints := { limits := (limits settings.agent).getD {} }
                now, ids }
            exporter := settings.exporter } := by
  rw [start, assemble_eq hprovider hseed hlimits]
  rfl

/-- What a service begins with is tidy, if no id comes twice and none is that of a conversation in
the seed. -/
theorem Memory.tidy_seed (seed : Messaging.Seed) (checkpoints : Checkpoint.Store)
    (now : Time.Instant) {ids : Nat → String} (hdistinct : ∀ m n, ids m = ids n → m = n)
    (hunused : ∀ n, ids n ∉ Entries.names seed.store.conversations) :
    household.Tidy { messages := seed.store, checkpoints, now, ids } :=
  tidy seed.keyed_store hdistinct fun n ↦ hunused (0 + n)

/-- A service with its own settings can be started, whatever its surroundings; it begins with
nothing in its memory. -/
theorem start_default (transport : Model.Transport Memory) (now : Time.Instant)
    (readFile : String → Except String String) {ids : Nat → String}
    (hdistinct : ∀ m n, ids m = ids n → m = n) :
    ∃ running seed, start {} transport now ids readFile = .ok running ∧
      assemble {} (Memory.surroundings transport) now readFile = .ok (running.app, seed) ∧
      Memory.household.Tidy running.memory ∧ running.memory.messages = {} ∧
      running.memory.checkpoints.kept = [] :=
  ⟨_, ⟨[], [], []⟩, start_eq rfl rfl (by decide), assemble_eq rfl rfl (by decide),
    Memory.tidy_seed _ _ now hdistinct (fun _ ↦ List.not_mem_nil), rfl, rfl⟩

/-- Ids of which every one is longer than those before it. -/
def growingId (n : Nat) : String :=
  String.ofList (List.replicate n 'a')

theorem eq_of_growingId (m n : Nat) (h : growingId m = growingId n) : m = n := by
  simpa [growingId] using congrArg String.length h

end Service

end Errand
