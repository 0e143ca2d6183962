import Errand.Proofs.Messaging.Growing
import Errand.Proofs.Service.Household

/-!
# Where exchanges are recorded

A recorder writes into the first conversation in which both the actor and the assistant take part,
and opens one of the two if there is none (`Store.Chooses`). `Household.Adds` says exactly what came
to a store between two states of everything outside, so that recording one text is one message and
at most one conversation more (`sends_records`).

Somebody else may take part in the conversation that is chosen. So what is recorded stays between
the actor and the assistant (`Store.StaysBetween`) if nobody else takes part in the first
conversation of both, and only then: `recorded_staysBetween_iff`.
-/

set_option autoImplicit false

namespace Errand.Messaging

open Service (Memory growingId eq_of_growingId)

variable {σ α : Type}

/-! ### Conversations of two -/

/-- Whether two users take part in a conversation, and nobody else. -/
def Conversation.IsBetween (conversation : Conversation) (a b : String) : Prop :=
  ∀ user, user ∈ conversation.participants ↔ user = a ∨ user = b

theorem Conversation.hasEvery_pair {conversation : Conversation} {a b : String} :
    conversation.hasEvery [a, b] ↔
      a ∈ conversation.participants ∧ b ∈ conversation.participants := by
  simp [hasEvery, has]

theorem Conversation.isBetween_iff {conversation : Conversation} {a b : String} :
    conversation.IsBetween a b ↔ conversation.hasEvery [a, b] ∧
      ∀ user ∈ conversation.participants, user = a ∨ user = b := by
  rw [hasEvery_pair]
  constructor
  · exact fun h ↦ ⟨⟨(h a).mpr (.inl rfl), (h b).mpr (.inr rfl)⟩, fun user ↦ (h user).mp⟩
  · rintro ⟨⟨ha, hb⟩, honly⟩ user
    refine ⟨honly user, ?_⟩
    rintro (rfl | rfl)
    · exact ha
    · exact hb

instance (conversation : Conversation) (a b : String) : Decidable (conversation.IsBetween a b) :=
  decidable_of_iff _ Conversation.isBetween_iff.symm

theorem Conversation.isBetween_of_participants {conversation : Conversation} {a b : String}
    (h : conversation.participants = [a, b]) : conversation.IsBetween a b := by
  simp [IsBetween, h]

/-- A conversation that is found stands in the store, and all of the users take part in it. -/
theorem Store.of_findConversationOf {store : Store} {users : List String} {place : Conversation}
    (h : store.findConversationOf users = some place) :
    place ∈ store.conversations.map (·.2) ∧ place.hasEvery users := by
  rw [findConversationOf] at h
  exact ⟨List.mem_of_find?_eq_some h, by simpa using List.find?_some h⟩

/-- Where no conversation of two users is found, there is none of just the two. -/
theorem Store.not_isBetween_of_missed {store : Store} {a b : String}
    (h : store.findConversationOf [a, b] = none) :
    ∀ entry ∈ store.conversations, ¬ entry.2.IsBetween a b := by
  intro entry hentry hbetween
  have hmissed := List.find?_eq_none.mp h entry.2 (List.mem_map_of_mem hentry)
  exact hmissed (Conversation.isBetween_iff.mp hbetween).1

/-! ### What comes to a store -/

namespace Household

variable {house : Household σ} {before between after outside : σ}
variable {opened more : List Conversation} {sent later : List Message}

/-- Whether a household is tidy, and no two conversations have the same id. -/
structure Neat (house : Household σ) (outside : σ) : Prop extends house.Tidy outside where
  nodup : (Entries.names (house.store outside).conversations).Nodup

/-- What a state has in common with one before it if some conversations were opened and some
messages sent between them, in this order, and nothing else was done to the store. -/
structure Adds (house : Household σ) (before : σ) (opened : List Conversation)
    (sent : List Message) (after : σ) : Prop where
  neat : house.Neat after
  conversations : (house.store after).conversations =
    (house.store before).conversations ++ opened.map fun conversation ↦
      (conversation.id, conversation)
  messages : (house.store after).messages = (house.store before).messages ++ sent

theorem Adds.refl (hneat : house.Neat outside) : house.Adds outside [] [] outside where
  neat := hneat
  conversations := (List.append_nil _).symm
  messages := (List.append_nil _).symm

theorem Adds.trans (h : house.Adds before opened sent between)
    (h' : house.Adds between more later after) :
    house.Adds before (opened ++ more) (sent ++ later) after where
  neat := h'.neat
  conversations := by rw [h'.conversations, h.conversations, List.map_append, List.append_assoc]
  messages := by rw [h'.messages, h.messages, List.append_assoc]

/-- A conversation that is found goes on to be found. -/
theorem Adds.findConversation {opened : List Conversation} {sent : List Message}
    (h : house.Adds before opened sent after) {id : String} {place : Conversation}
    (hplace : (house.store before).findConversation id = some place) :
    (house.store after).findConversation id = some place := by
  rw [Store.findConversation] at hplace ⊢
  rw [h.conversations, List.lookup_append, hplace, Option.some_or]

/-- A conversation that stands in a store is found under its id. -/
theorem Neat.findConversation (hneat : house.Neat outside) {place : Conversation}
    (hplace : place ∈ (house.store outside).conversations.map (·.2)) :
    (house.store outside).findConversation place.id = some place := by
  obtain ⟨entry, hentry, rfl⟩ := List.mem_map.mp hplace
  rw [Store.findConversation, hneat.keyed entry hentry]
  exact Entries.lookup_of_mem hneat.nodup hentry

/-- Opening a conversation adds it at the end. -/
theorem Neat.createConversation (hlawful : house.Lawful) (hneat : house.Neat outside)
    {participants : List String} (hsome : participants ≠ []) :
    ∃ opened after,
      (Repository.ofStore house).createConversation participants outside =
        ({ outcome := .ok opened }, after) ∧
      opened.participants = participants ∧ house.Adds outside [opened] [] after := by
  obtain ⟨opened, after, hcall, hgrows, -⟩ :=
    createConversation_grows hlawful hneat.toTidy hsome
  have hcall' := hcall
  simp only [Repository.ofStore, Repository.create, Consult.modify, Store.createConversation,
    List.isEmpty_eq_false_iff.mpr hsome, Bool.false_eq_true, if_false, Prod.mk.injEq,
    Reply.mk.injEq, Except.ok.injEq, and_true] at hcall'
  obtain ⟨rfl, rfl⟩ := hcall'
  have hconversations : Entries.set (house.mint outside).1
      (⟨(house.mint outside).1, participants, house.now outside⟩ : Conversation)
      (house.store outside).conversations = _ := Entries.set_of_notMem (hneat.unused 0)
  refine ⟨_, _, hcall, rfl, ⟨⟨hgrows.tidy, ?_⟩, ?_, hgrows.messages⟩⟩
  · rw [hlawful.store_setStore]
    exact Entries.nodup_names_set hneat.nodup
  · rw [hlawful.store_setStore]
    exact hconversations

/-- A message that is sent in a conversation is added at the end. -/
theorem Neat.createMessage (hlawful : house.Lawful) (hneat : house.Neat outside) (draft : Draft)
    (hplace : ((house.store outside).findConversation draft.conversation).isSome) :
    ∃ message after,
      (Repository.ofStore house).createMessage draft outside =
        ({ outcome := .ok message }, after) ∧
      message.conversation = draft.conversation ∧
      message.Holds draft.sender draft.receiver draft.content ∧
      house.Adds outside [] [message] after := by
  have hcreate := createMessage_grows hlawful hneat.toTidy draft
  rw [if_pos hplace] at hcreate
  obtain ⟨after, hcall, hgrows⟩ := hcreate
  have hconversations : (house.store after).conversations =
      (house.store outside).conversations := by
    obtain ⟨place, hplace⟩ := Option.isSome_iff_exists.mp hplace
    have hafter := congrArg (fun reply ↦ (house.store reply.2).conversations) hcall
    simp only [Repository.ofStore, Repository.create, Consult.modify, Store.createMessage, hplace,
      hlawful.store_setStore] at hafter
    exact hafter.symm
  refine ⟨_, after, hcall, rfl, ⟨rfl, rfl, rfl⟩, ⟨⟨hgrows.tidy, ?_⟩, ?_, hgrows.messages⟩⟩
  · rw [hconversations]
    exact hneat.nodup
  · rw [hconversations, List.map_nil, List.append_nil]

end Household

/-- The conversations of a seed have different ids. -/
theorem Seed.nodup_names_store (seed : Seed) :
    (Entries.names seed.store.conversations).Nodup := by
  suffices h : ∀ (added : List Conversation) (entries : List (String × Conversation)),
      (Entries.names entries).Nodup →
      (Entries.names (added.foldl (fun entries conversation ↦
        Entries.set conversation.id conversation entries) entries)).Nodup from
    h seed.conversations [] List.nodup_nil
  intro added
  induction added with
  | nil => exact fun _ hentries ↦ hentries
  | cons conversation rest ih => exact fun _ hentries ↦ ih _ (Entries.nodup_names_set hentries)

/-- A service that begins with a seed begins neat, if no id comes twice and none is that of a
conversation in the seed. -/
theorem Seed.neat (seed : Seed) (now : Time.Instant) {ids : Nat → String}
    (hdistinct : ∀ m n, ids m = ids n → m = n)
    (hunused : ∀ n, ids n ∉ Entries.names seed.store.conversations) :
    Memory.household.Neat { messages := seed.store, now, ids } where
  toTidy := Memory.tidy_seed seed {} now hdistinct hunused
  nodup := seed.nodup_names_store

/-- A name that is not made of the letter `a` alone is none of the growing ids. -/
theorem notMem_growingId {names : List String}
    (h : ∀ name ∈ names, name.toList.any (· != 'a')) (n : Nat) : growingId n ∉ names := by
  intro hmem
  obtain ⟨letter, hletter, hother⟩ := List.any_eq_true.mp (h _ hmem)
  rw [growingId, String.toList_ofList] at hletter
  simp [List.eq_of_mem_replicate hletter] at hother

/-! ### Recording -/

/-- Which conversation is chosen for some users, and what is opened for it: the first in which all
of them take part, or a new one of theirs if there is none. -/
inductive Store.Chooses (store : Store) (users : List String) :
    Conversation → List Conversation → Prop
  | found {place : Conversation} (hfound : store.findConversationOf users = some place) :
      store.Chooses users place []
  | opened {place : Conversation} (hnone : store.findConversationOf users = none)
      (husers : place.participants = users) : store.Chooses users place [place]

/-- Whether what came to a store stayed between two users: every new message stands in a
conversation of just the two, and a conversation was opened exactly if there was none of just the
two. -/
structure Store.StaysBetween (a b : String) (before after : Store) : Prop where
  placed : ∀ message ∈ after.messages.drop before.messages.length,
    ∃ place, after.findConversation message.conversation = some place ∧ place.IsBetween a b
  opened : before.conversations.length < after.conversations.length ↔
    ∀ entry ∈ before.conversations, ¬ entry.2.IsBetween a b

/-- Whether one message was sent between two states, in the conversation that is chosen for two
users, and nothing was opened but what is opened for it. -/
def Household.Records (house : Household σ) (a b : String) (before : σ) (place : Conversation)
    (message : Message) (after : σ) : Prop :=
  ∃ opened, (house.store before).Chooses [a, b] place opened ∧
    house.Adds before opened [message] after ∧
    (house.store after).findConversation message.conversation = some place

section Recording

variable {house : Household σ} {outside : σ}

theorem findConversationOf_ofStore (house : Household σ) (users : List String) (outside : σ) :
    (Repository.ofStore house).findConversationOf users outside =
      ({ outcome := .ok ((house.store outside).findConversationOf users) }, outside) := rfl

/-- The conversation of an actor with the assistant is the one that is chosen for the two. -/
theorem conversationWith_adds (hlawful : house.Lawful) (hneat : house.Neat outside)
    (assistant actor : String) :
    ∃ place opened,
      (Recorder.conversationWith ⟨.ofStore house, assistant⟩ actor outside).1.outcome =
        .ok place ∧
      (house.store outside).Chooses [assistant, actor] place opened ∧
      house.Adds outside opened []
        (Recorder.conversationWith ⟨.ofStore house, assistant⟩ actor outside).2 ∧
      place ∈ (house.store (Recorder.conversationWith ⟨.ofStore house, assistant⟩ actor outside).2
        |>.conversations.map (·.2)) := by
  unfold Recorder.conversationWith
  rw [Consult.outcome_bind, Consult.outside_bind, findConversationOf_ofStore]
  cases hfind : (house.store outside).findConversationOf [assistant, actor] with
  | some place =>
    exact ⟨place, [], rfl, .found hfind, .refl hneat, (Store.of_findConversationOf hfind).1⟩
  | none =>
    obtain ⟨place, after, hcall, husers, hadds⟩ :=
      hneat.createConversation hlawful (List.cons_ne_nil assistant [actor])
    simp only [hcall]
    refine ⟨place, [place], rfl, .opened hfind husers, hadds, ?_⟩
    rw [hadds.conversations]
    simp

/-- A message to or from the assistant is recorded. -/
theorem sends_records (hlawful : house.Lawful) (hneat : house.Neat outside)
    (assistant actor sender receiver content : String) (result : Conversation → Message → α) :
    let call : Consult σ α := do
      let conversation ← Recorder.conversationWith ⟨.ofStore house, assistant⟩ actor
      let message ← (Repository.ofStore house).createMessage
        { conversation := conversation.id, sender, receiver, content }
      return result conversation message
    ∃ place message, (call outside).1.outcome = .ok (result place message) ∧
      message.Holds sender receiver content ∧
      house.Records assistant actor outside place message (call outside).2 := by
  intro call
  obtain ⟨place, opened, houtcome, hchooses, hopened, hplace⟩ :=
    conversationWith_adds hlawful hneat assistant actor
  have hfind := hopened.neat.findConversation hplace
  obtain ⟨message, after, hcall, hconversation, hholds, hsent⟩ :=
    hopened.neat.createMessage hlawful ⟨place.id, sender, receiver, content⟩
      (Option.isSome_iff_exists.mpr ⟨place, hfind⟩)
  have hadds : house.Adds outside opened [message] after := by simpa using hopened.trans hsent
  simp only [call]
  rw [Consult.outcome_bind, Consult.outside_bind, houtcome]
  dsimp only
  rw [Consult.outcome_bind, Consult.outside_bind, hcall]
  refine ⟨place, message, rfl, hholds, opened, hchooses, hadds, ?_⟩
  rw [hconversation]
  exact hsent.findConversation hfind

/-- What is recorded stays between two users exactly if nobody else takes part in the first
conversation of both. -/
theorem Household.Records.staysBetween_iff {a b : String} {after : σ} {place : Conversation}
    {message : Message} (h : house.Records a b outside place message after) :
    (house.store outside).StaysBetween a b (house.store after) ↔
      ∀ found ∈ (house.store outside).findConversationOf [a, b], found.IsBetween a b := by
  obtain ⟨opened, hchooses, hadds, hplace⟩ := h
  have hnew : (house.store after).messages.drop (house.store outside).messages.length =
      [message] := by rw [hadds.messages, List.drop_left]
  have hlength := congrArg List.length hadds.conversations
  rw [List.length_append, List.length_map] at hlength
  constructor
  · intro hstays found hfound
    cases hchooses with
    | found hplaceOf =>
      obtain rfl : place = found := Option.some.inj (hplaceOf.symm.trans hfound)
      obtain ⟨place', hplace', hbetween⟩ := hstays.placed message (by simp [hnew])
      rwa [Option.some.inj (hplace.symm.trans hplace')]
    | opened hnone _ => cases hnone.symm.trans hfound
  · -- The new message is the only one that has to be looked at, and it stands in the conversation
    -- that was chosen.
    intro hfirst
    refine ⟨fun other hother ↦ ⟨place, ?_, ?_⟩, ?_⟩
    · rw [hnew, List.mem_singleton] at hother
      rw [hother, hplace]
    · cases hchooses with
      | found hfound => exact hfirst place hfound
      | opened _ husers => exact Conversation.isBetween_of_participants husers
    · cases hchooses with
      | found hfound =>
        obtain ⟨entry, hentry, hplaceOf⟩ :=
          List.mem_map.mp (Store.of_findConversationOf hfound).1
        refine iff_of_false (by simp [hlength]) fun hnone ↦ hnone entry hentry ?_
        rw [hplaceOf]
        exact hfirst place hfound
      | opened hnone _ =>
        exact iff_of_true (by simp [hlength]) (Store.not_isBetween_of_missed hnone)

/-- A task is recorded as one message of the actor to the assistant, and an answer that is not blank
as one of the assistant to the actor. Either stands in the conversation that is chosen for the two:
the first in which both take part, or a new one of theirs if there is none. It stays between them
exactly if nobody else takes part in that first conversation. -/
theorem recorded_staysBetween_iff (hlawful : house.Lawful) (hneat : house.Neat outside)
    (assistant actor text : String) :
    let task := Recorder.recordTask ⟨.ofStore house, assistant⟩ actor text outside
    let answer := Recorder.recordAnswer ⟨.ofStore house, assistant⟩ actor text outside
    let alone := ∀ found ∈ (house.store outside).findConversationOf [assistant, actor],
      found.IsBetween assistant actor
    ((∃ place message, task.1.outcome = .ok place ∧ message.Holds actor assistant text ∧
        house.Records assistant actor outside place message task.2) ∧
      ((house.store outside).StaysBetween assistant actor (house.store task.2) ↔ alone)) ∧
    (Text.isAllBlank text = false →
      (∃ place message, answer.1.outcome = .ok (some message) ∧
        message.Holds assistant actor text ∧
        house.Records assistant actor outside place message answer.2) ∧
      ((house.store outside).StaysBetween assistant actor (house.store answer.2) ↔ alone)) := by
  intro task answer alone
  constructor
  · obtain ⟨place, message, houtcome, hholds, hrecords⟩ :=
      sends_records hlawful hneat assistant actor actor assistant text
        fun conversation _ ↦ conversation
    exact ⟨⟨place, message, houtcome, hholds, hrecords⟩, hrecords.staysBetween_iff⟩
  · intro hblank
    have hanswer : answer = (do
        let conversation ← Recorder.conversationWith ⟨.ofStore house, assistant⟩ actor
        let message ← (Repository.ofStore house).createMessage
          { conversation := conversation.id, sender := assistant, receiver := actor
            content := text }
        return some message : Consult σ (Option Message)) outside := by
      simp only [answer, Recorder.recordAnswer, hblank, Bool.false_eq_true, if_false]
    obtain ⟨place, message, houtcome, hholds, hrecords⟩ :=
      sends_records hlawful hneat assistant actor assistant actor text
        fun _ message ↦ some message
    rw [← hanswer] at houtcome hrecords
    exact ⟨⟨place, message, houtcome, hholds, hrecords⟩, hrecords.staysBetween_iff⟩

/-- The first conversation of the assistant and the actor in this seed is one of just the two, after
one without the assistant. -/
theorem recorded_staysBetween_iff_pair :
    let seed : Seed := ⟨[], [⟨"c-1", ["u-1", "u-2"], ⟨0, 0⟩⟩, ⟨"c-2", ["u-1", "bot"], ⟨0, 0⟩⟩], []⟩
    let memory : Memory := { messages := seed.store, now := ⟨0, 0⟩, ids := growingId }
    let recorder : Recorder Memory := ⟨.ofStore Memory.household, "bot"⟩
    Memory.household.Lawful ∧ Memory.household.Neat memory ∧ Text.isAllBlank "done" = false ∧
      seed.store.StaysBetween "bot" "u-1"
        (recorder.recordAnswer "u-1" "done" memory).2.messages := by
  intro seed memory recorder
  have hneat : Memory.household.Neat memory :=
    seed.neat _ eq_of_growingId (notMem_growingId (by decide))
  have hblank : Text.isAllBlank "done" = false := by decide +kernel
  obtain ⟨-, hanswer⟩ :=
    recorded_staysBetween_iff Memory.lawful_household hneat "bot" "u-1" "done"
  refine ⟨Memory.lawful_household, hneat, hblank, (hanswer hblank).2.mpr ?_⟩
  intro found hfound
  obtain rfl : (⟨"c-2", ["u-1", "bot"], ⟨0, 0⟩⟩ : Conversation) = found :=
    Option.some.inj hfound
  decide

/-- If somebody else takes part in the first conversation of the assistant and the actor, a task is
recorded there, and none of their own is opened. -/
theorem recordTask_among_three :
    let seed : Seed := ⟨[], [⟨"c-1", ["bot", "u-1", "u-2"], ⟨0, 0⟩⟩], []⟩
    let memory : Memory := { messages := seed.store, now := ⟨0, 0⟩, ids := growingId }
    let recorder : Recorder Memory := ⟨.ofStore Memory.household, "bot"⟩
    let after := (recorder.recordTask "u-1" "hi" memory).2.messages
    after.messages.map (·.conversation) = ["c-1"] ∧
      after.conversations = seed.store.conversations ∧
      ¬ seed.store.StaysBetween "bot" "u-1" after := by
  intro seed memory recorder after
  refine ⟨rfl, rfl, fun hstays ↦ ?_⟩
  have hopened := hstays.opened.mpr (by decide)
  exact absurd hopened (by decide)

end Recording

end Errand.Messaging
