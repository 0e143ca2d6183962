import Errand.Messaging.Exchange
import Errand.Messaging.Operations
import Errand.Proofs.Consult

/-!
# How a store of messages grows

Whoever reaches the messages through the repository of a store can only add to them.
`Household.Grows house before sent after` says that some messages were sent between two states of
everything outside, in this order, and that everything that was there before still is; conversations
may have been opened. Every message stands in a conversation that exists.

That needs a store whose conversations are found under their own ids, and ids that have not been
used yet (`Household.Tidy`), which is preserved. Under this condition a `Quiet` call sends nothing.
Eleven of the twelve messaging operations are quiet (`quiet_or_sendMessage`), the twelfth sends one
message in the name of the actor if it succeeds (`sendMessage_grows`), and a recorder sends the
message that it records (`recordTask_grows`, `recordAnswer_grows`).
-/

set_option autoImplicit false

namespace Errand.Messaging

variable {σ α β : Type}

/-! ### States of a household -/

namespace Household

/-- The id that is minted after some others. -/
def idAt (house : Household σ) : Nat → σ → String
  | 0, outside => (house.mint outside).1
  | n + 1, outside => house.idAt n (house.mint outside).2

/-- Whether a household keeps its store, its ids and everything else apart. -/
structure Lawful (house : Household σ) : Prop where
  store_setStore : ∀ store outside, house.store (house.setStore store outside) = store
  store_mint : ∀ outside, house.store (house.mint outside).2 = house.store outside
  idAt_setStore : ∀ n store outside,
    house.idAt n (house.setStore store outside) = house.idAt n outside

/-- Whether conversations are found under their own ids, no id is minted twice, and no id that will
be minted is that of a conversation. -/
structure Tidy (house : Household σ) (outside : σ) : Prop where
  keyed : ∀ entry ∈ (house.store outside).conversations, entry.2.id = entry.1
  distinct : ∀ m n, house.idAt m outside = house.idAt n outside → m = n
  unused : ∀ n, house.idAt n outside ∉ Entries.names (house.store outside).conversations

/-- What a state has in common with one before it if nothing was done to the store; ids may have
been minted. -/
structure Beside (house : Household σ) (before after : σ) : Prop where
  store : house.store after = house.store before
  ids : ∃ k, ∀ n, house.idAt n after = house.idAt (n + k) before

/-- What a state has in common with one before it if some messages were sent between them and
conversations may have been opened. -/
structure Grows (house : Household σ) (before : σ) (sent : List Message) (after : σ) : Prop where
  tidy : house.Tidy after
  users : (house.store after).users = (house.store before).users
  conversations : (house.store before).conversations <+: (house.store after).conversations
  messages : (house.store after).messages = (house.store before).messages ++ sent
  placed : ∀ message ∈ sent, ((house.store after).findConversation message.conversation).isSome

section Grows

variable {house : Household σ} {before between after outside : σ} {sent more : List Message}

theorem Beside.refl (house : Household σ) (outside : σ) : house.Beside outside outside :=
  ⟨rfl, 0, fun _ ↦ rfl⟩

theorem Beside.tidy (h : house.Beside before after) (htidy : house.Tidy before) :
    house.Tidy after := by
  obtain ⟨k, hids⟩ := h.ids
  refine ⟨by rw [h.store]; exact htidy.keyed, fun m n hmn ↦ ?_, fun n ↦ ?_⟩
  · rw [hids, hids] at hmn
    exact Nat.add_right_cancel (htidy.distinct _ _ hmn)
  · rw [hids, h.store]
    exact htidy.unused (n + k)

theorem Beside.grows (h : house.Beside before after) (htidy : house.Tidy before) :
    house.Grows before [] after where
  tidy := h.tidy htidy
  users := by rw [h.store]
  conversations := h.store ▸ List.prefix_rfl
  messages := by rw [h.store, List.append_nil]
  placed := by simp

theorem Grows.refl (htidy : house.Tidy outside) : house.Grows outside [] outside :=
  (Beside.refl house outside).grows htidy

/-- A conversation that exists goes on to exist. -/
theorem isSome_findConversation_of_prefix {store later : Store} {id : String}
    (h : store.conversations <+: later.conversations) (hid : (store.findConversation id).isSome) :
    (later.findConversation id).isSome := by
  obtain ⟨opened, hopened⟩ := h
  rw [Store.findConversation] at hid ⊢
  rw [← hopened, List.lookup_append, Option.isSome_or, hid, Bool.true_or]

theorem Grows.trans (h : house.Grows before sent between) (h' : house.Grows between more after) :
    house.Grows before (sent ++ more) after where
  tidy := h'.tidy
  users := h'.users.trans h.users
  conversations := h.conversations.trans h'.conversations
  messages := by rw [h'.messages, h.messages, List.append_assoc]
  placed message hmessage := by
    rcases List.mem_append.mp hmessage with hsent | hmore
    · exact isSome_findConversation_of_prefix h'.conversations (h.placed message hsent)
    · exact h'.placed message hmore

/-- Something new is put into a store under the id that was minted for it. -/
theorem Lawful.grows (hlawful : house.Lawful) (htidy : house.Tidy outside) {store : Store}
    {opened : List (String × Conversation)} (husers : store.users = (house.store outside).users)
    (hconversations : store.conversations = (house.store outside).conversations ++ opened)
    (hopened : ∀ entry ∈ opened, entry.1 = house.idAt 0 outside ∧ entry.2.id = entry.1)
    (hmessages : store.messages = (house.store outside).messages ++ sent)
    (hplaced : ∀ message ∈ sent, (store.findConversation message.conversation).isSome) :
    house.Grows outside sent (house.setStore store (house.mint outside).2) := by
  have hstore := hlawful.store_setStore store (house.mint outside).2
  have hids : ∀ n, house.idAt n (house.setStore store (house.mint outside).2) =
      house.idAt (n + 1) outside := fun n ↦ hlawful.idAt_setStore n store _
  refine ⟨⟨fun entry hentry ↦ ?_, fun m n hmn ↦ ?_, fun n hmem ↦ ?_⟩, ?_, ?_, ?_, ?_⟩
  · rw [hstore, hconversations] at hentry
    rcases List.mem_append.mp hentry with hold | hnew
    · exact htidy.keyed entry hold
    · exact (hopened entry hnew).2
  · rw [hids, hids] at hmn
    exact Nat.add_right_cancel (htidy.distinct _ _ hmn)
  · rw [hstore, hids, hconversations, Entries.names, List.map_append] at hmem
    rcases List.mem_append.mp hmem with hold | hnew
    · exact htidy.unused (n + 1) hold
    · obtain ⟨entry, hentry, hid⟩ := List.mem_map.mp hnew
      have hzero := htidy.distinct _ _ (hid.symm.trans (hopened entry hentry).1)
      exact Nat.succ_ne_zero n hzero
  · rw [hstore, husers]
  · rw [hstore, hconversations]
    exact List.prefix_append _ _
  · rw [hstore, hmessages]
  · rwa [hstore]

end Grows

end Household

/-! ### Calls that add to a store -/

section Calls

variable {house : Household σ} {outside : σ}

/-- Whether a call sends no message and takes nothing away. -/
def Household.Quiet (house : Household σ) (call : Consult σ α) : Prop :=
  ∀ outside, house.Tidy outside → house.Grows outside [] (call outside).2

open Household (Quiet Grows)

theorem quiet_answer (outcome : Except Fault α) : house.Quiet (Consult.answer outcome) :=
  fun _ htidy ↦ .refl htidy

theorem quiet_look (ask : Store → α) : house.Quiet (Repository.look house ask) :=
  fun _ htidy ↦ .refl htidy

theorem Household.Quiet.bind {call : Consult σ α} {next : α → Consult σ β}
    (hcall : house.Quiet call) (hnext : ∀ a, house.Quiet (next a)) :
    house.Quiet (call >>= next) := by
  intro outside htidy
  have hgrows := hcall outside htidy
  rw [Consult.outside_bind]
  cases (call outside).1.outcome with
  | error fault => exact hgrows
  | ok a => exact hgrows.trans (hnext a _ hgrows.tidy)

/-- A conversation of somebody is opened and exists from then on. -/
theorem createConversation_grows (hlawful : house.Lawful) (htidy : house.Tidy outside)
    {participants : List String} (hsome : participants ≠ []) :
    ∃ conversation after,
      ((Repository.ofStore house).createConversation participants outside) =
        ({ outcome := .ok conversation }, after) ∧
      house.Grows outside [] after ∧
      ((house.store after).findConversation conversation.id).isSome := by
  let conversation : Conversation :=
    { id := house.idAt 0 outside, participants, createdAt := house.now outside }
  let store : Store :=
    { house.store outside with
      conversations :=
        Entries.set conversation.id conversation (house.store outside).conversations }
  have hopened : store.conversations = (house.store outside).conversations ++
      [(conversation.id, conversation)] := Entries.set_of_notMem (htidy.unused 0)
  refine ⟨conversation, house.setStore store (house.mint outside).2, ?_, ?_, ?_⟩
  · simp only [Repository.ofStore, Repository.create, Consult.modify, Store.createConversation,
      List.isEmpty_eq_false_iff.mpr hsome]
    rfl
  · refine hlawful.grows htidy rfl hopened ?_ (List.append_nil _).symm (by simp)
    intro entry hentry
    obtain rfl := List.mem_singleton.mp hentry
    exact ⟨rfl, rfl⟩
  · rw [hlawful.store_setStore]
    exact Option.isSome_iff_exists.mpr ⟨conversation, Entries.lookup_set_self _ _ _⟩

theorem quiet_createConversation (hlawful : house.Lawful) (participants : List String) :
    house.Quiet ((Repository.ofStore house).createConversation participants) := by
  intro outside htidy
  by_cases hsome : participants = []
  · subst hsome
    exact .refl htidy
  · obtain ⟨conversation, after, hcall, hgrows, -⟩ :=
      createConversation_grows hlawful htidy hsome
    rw [hcall]
    exact hgrows

/-- A message is sent if there is a conversation for it, and only then. -/
theorem createMessage_grows (hlawful : house.Lawful) (htidy : house.Tidy outside) (draft : Draft) :
    if ((house.store outside).findConversation draft.conversation).isSome then
      ∃ after, (Repository.ofStore house).createMessage draft outside =
          ({ outcome := .ok (draft.toMessage (house.idAt 0 outside) (house.now outside)) }, after) ∧
        house.Grows outside
          [draft.toMessage (house.idAt 0 outside) (house.now outside)] after
    else
      ∃ fault, (Repository.ofStore house).createMessage draft outside =
        ({ outcome := .error fault }, outside) := by
  simp only [Repository.ofStore, Repository.create, Consult.modify, Store.createMessage]
  cases hfind : (house.store outside).findConversation draft.conversation with
  | none => exact ⟨_, rfl⟩
  | some conversation =>
    refine ⟨_, rfl, hlawful.grows htidy rfl (List.append_nil _).symm (by simp) rfl ?_⟩
    intro message hmessage
    obtain rfl := List.mem_singleton.mp hmessage
    exact Option.isSome_iff_exists.mpr ⟨conversation, hfind⟩

/-! ### Operations -/

/-- What a call that sends a message comes to: it fails and nothing is sent, or it answers with the
message that was sent in the name of an actor. -/
inductive Delivery (actor : String) : Except Fault Json → List Message → Prop
  | failed (fault : Fault) : Delivery actor (.error fault) []
  | sent (message : Message) (hsender : message.sender = actor) :
      Delivery actor (.ok message.toJson) [message]

/-- A property of calls that holds of every call that looks at a store or opens a conversation, and
of one call after another. -/
structure Household.Closed (house : Household σ) (P : {α : Type} → Consult σ α → Prop) : Prop where
  answer : ∀ {α : Type} (outcome : Except Fault α), P (Consult.answer outcome)
  look : ∀ {α : Type} (ask : Store → α), P (Repository.look house ask)
  createConversation : ∀ participants,
    P ((Repository.ofStore house).createConversation participants)
  bind : ∀ {α β : Type} {call : Consult σ α} {next : α → Consult σ β},
    P call → (∀ a, P (next a)) → P (call >>= next)

theorem closed_quiet (hlawful : house.Lawful) : house.Closed house.Quiet where
  answer := quiet_answer
  look := quiet_look
  createConversation := quiet_createConversation hlawful
  bind := .bind

section Closed

variable {P : {α : Type} → Consult σ α → Prop}

/-- An operation has the property if it has it once its parameters have been decoded. -/
theorem Household.Closed.messagingOperation (hclosed : house.Closed P)
    {name description title : String} {parameters : List Operation.Parameter}
    {fields : Json.Fields α} {run : α → Operation.Context → Consult σ Json}
    (hrun : ∀ a context, P (run a context)) (value : Json) (context : Operation.Context) :
    P ((Messaging.messagingOperation name description title parameters fields run).invoke value
      context) := by
  simp only [Messaging.messagingOperation, Operation.ofShape]
  split
  · exact hclosed.answer _
  · exact hrun _ context

/-- All messaging operations have the property, but for the one that sends messages. -/
theorem Household.Closed.operations (hclosed : house.Closed P) {assistant : String}
    {operation : Operation σ} (h : operation ∈ Messaging.operations (.ofStore house) assistant) :
    operation = sendMessage (.ofStore house) ∨
      operation.name ≠ "SendMessage" ∧ ∀ value context, P (operation.invoke value context) := by
  have hlook {α : Type} (ask : Store → α) (next : α → Json) :
      P (Repository.look house ask >>= fun found ↦ pure (next found)) :=
    hclosed.bind (hclosed.look ask) fun found ↦ hclosed.answer (.ok (next found))
  simp only [Messaging.operations, List.mem_cons, List.not_mem_nil, or_false] at h
  rcases h with rfl | rfl | rfl | rfl | rfl | rfl | rfl | rfl | rfl | rfl | rfl | rfl
  · refine .inr ⟨ne_of_beq_false rfl, hclosed.messagingOperation fun name _ ↦ ?_⟩
    exact hlook (·.searchUsers name) _
  · refine .inr ⟨ne_of_beq_false rfl, hclosed.messagingOperation fun participants _ ↦ ?_⟩
    exact hlook (·.findConversationOf participants) _
  · refine .inr ⟨ne_of_beq_false rfl, hclosed.messagingOperation fun participants _ ↦ ?_⟩
    exact hclosed.bind (hclosed.createConversation participants) fun _ ↦ hclosed.answer (.ok _)
  · refine .inr ⟨ne_of_beq_false rfl, hclosed.messagingOperation fun asked _ ↦ ?_⟩
    exact hlook (·.listMessages { conversation := some asked.1 }
      { offset := asked.2.2.getD 0, limit := asked.2.1 }) _
  · refine .inr ⟨ne_of_beq_false rfl, hclosed.messagingOperation fun user _ ↦ ?_⟩
    exact hlook (·.conversationsOf user) _
  · refine .inr ⟨ne_of_beq_false rfl, hclosed.messagingOperation fun asked _ ↦ ?_⟩
    exact hlook (·.listMessages { sender := some asked.1, excludeReceiver := some assistant }
      { offset := asked.2.2.getD 0, limit := some (asked.2.1.getD defaultLastSent) }) _
  · refine .inr ⟨ne_of_beq_false rfl, hclosed.messagingOperation fun asked _ ↦ ?_⟩
    refine hclosed.bind (hclosed.look (·.findConversationOf [asked.1, asked.2.1])) fun found ↦ ?_
    cases found with
    | none => exact hclosed.answer (.ok _)
    | some conversation =>
      exact hlook (·.listMessages { conversation := some conversation.id }
        { offset := asked.2.2.2.getD 0, limit := asked.2.2.1 }) _
  · exact .inl rfl
  · refine .inr ⟨ne_of_beq_false rfl, hclosed.messagingOperation fun id _ ↦ ?_⟩
    exact hlook (·.findUser id) _
  · refine .inr ⟨ne_of_beq_false rfl, hclosed.messagingOperation fun user _ ↦ ?_⟩
    exact hclosed.bind (hclosed.look (·.countMessages { sender := some user })) fun _ ↦
      hlook (·.countMessages { receiver := some user }) _
  · refine .inr ⟨ne_of_beq_false rfl, hclosed.messagingOperation fun id _ ↦ ?_⟩
    exact hclosed.bind (hclosed.look (·.countMessages { conversation := some id })) fun _ ↦
      hlook (·.findConversation id) _
  · refine .inr ⟨ne_of_beq_false rfl, hclosed.messagingOperation fun asked _ ↦ ?_⟩
    exact hlook (·.listMessages { involving := some asked.1, contains := some asked.2.1 }
      { limit := asked.2.2 }) _

/-- A property of calls that holds of every call that a household serves, and of one call after
another. -/
structure Household.Pervades (house : Household σ) (P : {α : Type} → Consult σ α → Prop) : Prop
    extends house.Closed P where
  createMessage : ∀ draft, P ((Repository.ofStore house).createMessage draft)

/-- All messaging operations have such a property. -/
theorem Household.Pervades.operation (h : house.Pervades P) {assistant : String}
    {operation : Operation σ} (hmem : operation ∈ Messaging.operations (.ofStore house) assistant)
    (value : Json) (context : Operation.Context) : P (operation.invoke value context) := by
  rcases h.toClosed.operations hmem with rfl | ⟨-, hother⟩
  · refine h.toClosed.messagingOperation (fun draft context ↦ ?_) value context
    split
    · exact h.bind (h.createMessage draft) fun message ↦ h.answer (.ok message.toJson)
    · exact h.answer _
  · exact hother value context

theorem Household.Closed.conversationWith (h : house.Closed P) (assistant actor : String) :
    P (Recorder.conversationWith ⟨.ofStore house, assistant⟩ actor) := by
  refine h.bind (h.look (·.findConversationOf [assistant, actor])) fun found ↦ ?_
  cases found with
  | none => exact h.createConversation _
  | some conversation => exact h.answer (.ok conversation)

theorem Household.Pervades.recordTask (h : house.Pervades P) (assistant actor task : String) :
    P (Recorder.recordTask ⟨.ofStore house, assistant⟩ actor task) :=
  h.bind (h.conversationWith assistant actor) fun conversation ↦
    h.bind (h.createMessage _) fun _ ↦ h.answer (.ok conversation)

theorem Household.Pervades.recordAnswer (h : house.Pervades P) (assistant actor answer : String) :
    P (Recorder.recordAnswer ⟨.ofStore house, assistant⟩ actor answer) := by
  unfold Recorder.recordAnswer
  split
  · exact h.answer (.ok none)
  · exact h.bind (h.conversationWith assistant actor) fun _ ↦
      h.bind (h.createMessage _) fun message ↦ h.answer (.ok (some message))

end Closed

/-- Whether a call sends a message in the name of an actor if it succeeds, and nothing otherwise. -/
def Household.Delivers (house : Household σ) (actor : String) (call : Consult σ Json) : Prop :=
  ∀ outside, house.Tidy outside → ∃ sent, house.Grows outside sent (call outside).2 ∧
    Delivery actor (call outside).1.outcome sent

theorem delivers_fail (actor : String) (fault : Fault) :
    house.Delivers actor (Consult.fail fault) :=
  fun _ htidy ↦ ⟨[], .refl htidy, .failed fault⟩

/-- A message is sent in the name of the actor, or not at all. -/
theorem delivers_sendMessage (hlawful : house.Lawful) (value : Json)
    (context : Operation.Context) :
    house.Delivers context.actor ((sendMessage (.ofStore house)).invoke value context) := by
  simp only [sendMessage, Messaging.messagingOperation, Operation.ofShape]
  split
  · exact delivers_fail _ _
  · next draft _ =>
    split
    · next hsender =>
      intro outside htidy
      have hcreate := createMessage_grows hlawful htidy draft
      rw [Consult.outcome_bind, Consult.outside_bind]
      split at hcreate
      · obtain ⟨after, hcall, hgrows⟩ := hcreate
        rw [hcall]
        exact ⟨_, hgrows, .sent _ hsender⟩
      · obtain ⟨fault, hcall⟩ := hcreate
        rw [hcall]
        exact ⟨[], .refl htidy, .failed fault⟩
    · exact delivers_fail _ _

/-! ### Recording -/

/-- Whether a message holds a text from one to another. -/
def Message.Holds (message : Message) (sender receiver content : String) : Prop :=
  message.sender = sender ∧ message.receiver = receiver ∧ message.content = content

/-- A conversation that is found can be written to. -/
theorem isSome_findConversation_of_found (htidy : house.Tidy outside) {participants : List String}
    {conversation : Conversation}
    (h : (house.store outside).findConversationOf participants = some conversation) :
    ((house.store outside).findConversation conversation.id).isSome := by
  obtain ⟨entry, hentry, rfl⟩ := List.mem_map.mp (List.mem_of_find?_eq_some h)
  rw [Option.isSome_iff_ne_none, Store.findConversation, Ne, List.lookup_eq_none_iff]
  intro hnone
  simpa [htidy.keyed entry hentry] using hnone entry hentry

/-- The conversation of an actor with the assistant exists, or is opened. -/
theorem conversationWith_grows (hlawful : house.Lawful) (htidy : house.Tidy outside)
    (assistant actor : String) :
    ∃ conversation,
      (Recorder.conversationWith ⟨.ofStore house, assistant⟩ actor outside).1.outcome =
        .ok conversation ∧
      house.Grows outside []
        (Recorder.conversationWith ⟨.ofStore house, assistant⟩ actor outside).2 ∧
      ((house.store (Recorder.conversationWith ⟨.ofStore house, assistant⟩ actor outside).2)
        |>.findConversation conversation.id).isSome := by
  have hlook : ((Repository.ofStore house).findConversationOf [assistant, actor] outside) =
      ({ outcome := .ok ((house.store outside).findConversationOf [assistant, actor]) },
        outside) := rfl
  unfold Recorder.conversationWith
  rw [Consult.outcome_bind, Consult.outside_bind, hlook]
  cases hfind : (house.store outside).findConversationOf [assistant, actor] with
  | some conversation =>
    exact ⟨conversation, rfl, .refl htidy, isSome_findConversation_of_found htidy hfind⟩
  | none =>
    obtain ⟨conversation, after, hcall, hgrows, hplaced⟩ :=
      createConversation_grows hlawful htidy (List.cons_ne_nil assistant [actor])
    simp only [hcall]
    exact ⟨conversation, rfl, hgrows, hplaced⟩

/-- A message is sent in the conversation of an actor with the assistant. -/
theorem sends_in_conversation (hlawful : house.Lawful) (htidy : house.Tidy outside)
    (assistant actor sender receiver content : String) (result : Conversation → Message → α) :
    let call : Consult σ α := do
      let conversation ← Recorder.conversationWith ⟨.ofStore house, assistant⟩ actor
      let message ← (Repository.ofStore house).createMessage
        { conversation := conversation.id, sender, receiver, content }
      return result conversation message
    (∃ a, (call outside).1.outcome = .ok a) ∧
      ∃ message, house.Grows outside [message] (call outside).2 ∧
        message.Holds sender receiver content := by
  intro call
  obtain ⟨conversation, houtcome, hopened, hplaced⟩ :=
    conversationWith_grows hlawful htidy assistant actor
  have hcreate := createMessage_grows hlawful hopened.tidy
    { conversation := conversation.id, sender, receiver, content }
  rw [if_pos hplaced] at hcreate
  obtain ⟨after, hcall, hsent⟩ := hcreate
  simp only [call]
  rw [Consult.outcome_bind, Consult.outside_bind, houtcome]
  dsimp only
  rw [Consult.outcome_bind, Consult.outside_bind, hcall]
  exact ⟨⟨_, rfl⟩, _, hopened.trans hsent, rfl, rfl, rfl⟩

/-- A task is recorded as one message from the actor to the assistant. -/
theorem recordTask_grows (hlawful : house.Lawful) (htidy : house.Tidy outside)
    (assistant actor task : String) :
    (∃ conversation,
      (Recorder.recordTask ⟨.ofStore house, assistant⟩ actor task outside).1.outcome =
        .ok conversation) ∧
      ∃ message, house.Grows outside [message]
          (Recorder.recordTask ⟨.ofStore house, assistant⟩ actor task outside).2 ∧
        message.Holds actor assistant task :=
  sends_in_conversation hlawful htidy assistant actor actor assistant task
    fun conversation _ ↦ conversation

/-- An answer is recorded as one message from the assistant to the actor, unless it is blank. -/
theorem recordAnswer_grows (hlawful : house.Lawful) (htidy : house.Tidy outside)
    (assistant actor answer : String) :
    ∃ sent, house.Grows outside sent
        (Recorder.recordAnswer ⟨.ofStore house, assistant⟩ actor answer outside).2 ∧
      if Text.isAllBlank answer then sent = []
      else ∃ message, sent = [message] ∧ message.Holds assistant actor answer := by
  unfold Recorder.recordAnswer
  split
  · exact ⟨[], .refl htidy, rfl⟩
  · obtain ⟨-, message, hgrows, hholds⟩ :=
      sends_in_conversation hlawful htidy assistant actor assistant actor answer
        fun _ message ↦ some message
    exact ⟨[message], hgrows, message, rfl, hholds⟩

end Calls

end Errand.Messaging
