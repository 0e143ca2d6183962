import Errand.Proofs.Messaging.Clerks
import Errand.Proofs.Messaging.Listing
import Errand.Proofs.Run.Encoding

/-!
# The messages between two users

The operation that lists what two users have sent each other lists the first conversation in which
both take part, whoever else takes part in it and whoever has sent a message there
(`Store.messagesBetween`, `invoke_between`).

So everything that is listed passed between the two if and only if everything in that conversation
did (`listed_between_iff`). This is so if nobody else takes part in it and every message of the
store passed between two different participants of its conversation (`Store.Apt`). A store stays apt
as long as only such messages are sent; whoever records exchanges with others than the assistant
sends no others (`Household.Careful`).
-/

set_option autoImplicit false

namespace Errand.Messaging

open Json (Fields Place Source)
open Service (Memory growingId eq_of_growingId)

variable {σ α : Type}

/-! ### What the operation lists -/

/-- A page of the first conversation in which two users take part; nothing if there is none. -/
def Store.messagesBetween (store : Store) (a b : String) (page : Page) : List Message :=
  (store.findConversationOf [a, b]).elim [] fun place ↦
    store.listMessages { conversation := some place.id } page

/-- Whether an object of parameters asks for a page of the messages between two users. -/
structure AsksBetween (object : List (String × Json)) (a b : String) (limit start : Option Nat) :
    Prop where
  nodup : (Entries.names object).Nodup
  lookup_sender : object.lookup "senderId" = some (.str a)
  lookup_receiver : object.lookup "receiverId" = some (.str b)
  lookup_limit : object.lookup "limit" = limit.map .nat
  lookup_start : object.lookup "start" = start.map .nat
  limit_lt : ∀ n ∈ limit, n < 2 ^ 64
  start_lt : ∀ n ∈ start, n < 2 ^ 64

theorem give_textField {place : Place} {object : List (String × Json)} {name text : String}
    (h : object.lookup name = some (.str text)) : (textField name).Give place object text :=
  .required h rfl

theorem give_countField {place : Place} {object : List (String × Json)} {name : String}
    {count : Option Nat} (h : object.lookup name = count.map .nat) (hlt : ∀ n ∈ count, n < 2 ^ 64) :
    (countField name).Give place object count := by
  cases count with
  | none => exact .default h
  | some n => exact .withDefault h (congrArg (some <$> ·) (Json.Decode.usize_nat (hlt n rfl) _))

/-- An operation whose parameters have been decoded does what it does with them. -/
theorem invoke_messagingOperation {name description title : String}
    {parameters : List Operation.Parameter} {fields : Fields α}
    {run : α → Operation.Context → Consult σ Json} {value : Json} {a : α}
    (h : fields.decoder ("struct " ++ title) { fromText := false } (.ofJson value) = .ok a)
    (context : Operation.Context) :
    (messagingOperation name description title parameters fields run).invoke value context =
      run a context := by
  simp only [messagingOperation, Operation.ofShape, Operation.decodeParameters, Json.decodeValue, h]

/-- Asked for the messages between two users, the operation answers with a page of the first
conversation in which both take part. -/
theorem invoke_between (house : Household σ) {object : List (String × Json)} {a b : String}
    {limit start : Option Nat} (hasks : AsksBetween object a b limit start)
    (context : Operation.Context) (outside : σ) :
    let called := (getConversationMessagesBetweenUsers (.ofStore house)).invoke (.obj object)
      context outside
    called.1.outcome =
        .ok (messagesJson ((house.store outside).messagesBetween a b ⟨start.getD 0, limit⟩)) ∧
      called.2 = outside := by
  intro called
  have hgive (place : Place) :
      (Fields.done (fun sender receiver limit start ↦ (sender, receiver, limit, start))
        |>.and (textField "senderId") |>.and (textField "receiverId")
        |>.and (countField "limit") |>.and (countField "start")).Give place object
          (a, b, limit, start) :=
    .and (.and (.and (.and (.done _) (give_textField hasks.lookup_sender))
      (give_textField hasks.lookup_receiver)) (give_countField hasks.lookup_limit hasks.limit_lt))
      (give_countField hasks.lookup_start hasks.start_lt)
  have hcalled : called = _ := congrFun (invoke_messagingOperation
    (Fields.decoder_obj _ (by decide) hasks.nodup (hgive _)) context) outside
  rw [hcalled, Consult.outcome_bind, Consult.outside_bind, findConversationOf_ofStore,
    Store.messagesBetween]
  cases (house.store outside).findConversationOf [a, b] with
  | none => exact ⟨rfl, rfl⟩
  | some place => exact ⟨rfl, rfl⟩

/-! ### Who sent what is listed -/

/-- Whether a message passed between two users. -/
def Message.IsBetween (message : Message) (a b : String) : Prop :=
  message.sender = a ∧ message.receiver = b ∨ message.sender = b ∧ message.receiver = a

instance (message : Message) (a b : String) : Decidable (message.IsBetween a b) :=
  inferInstanceAs (Decidable (_ ∨ _))

theorem Store.mem_newestFirst {messages : List Message} {message : Message} :
    message ∈ newestFirst messages ↔ message ∈ messages := by
  simp [newestFirst]

/-- What is listed stands in the store, and the filter lets it pass. -/
theorem Store.of_mem_listMessages {store : Store} {filter : Filter} {page : Page}
    {message : Message} (h : message ∈ store.listMessages filter page) :
    message ∈ store.messages ∧ filter.accepts message := by
  rw [← List.mem_filter, ← mem_newestFirst]
  unfold listMessages Page.of at h
  split at h
  · exact List.mem_of_mem_drop h
  · exact List.mem_of_mem_drop (List.mem_of_mem_take h)

theorem Filter.accepts_conversation {id : String} {message : Message} :
    Filter.accepts { conversation := some id } message ↔ message.conversation = id := by
  simp only [accepts, Option.all_some, Option.all_none, Bool.and_true, beq_iff_eq]
  exact eq_comm

/-- All that is listed passed between two users exactly if all messages of the first conversation in
which both take part did. -/
theorem Store.messagesBetween_iff (store : Store) (a b : String) :
    (∀ page, ∀ message ∈ store.messagesBetween a b page, message.IsBetween a b) ↔
      ∀ place ∈ store.findConversationOf [a, b], ∀ message ∈ store.messages,
        message.conversation = place.id → message.IsBetween a b := by
  unfold messagesBetween
  cases store.findConversationOf [a, b] with
  | none => simp
  | some place =>
    constructor
    · rintro h _ ⟨⟩ message hmessage hplace
      refine h {} message ?_
      change message ∈ newestFirst _
      rw [mem_newestFirst, List.mem_filter]
      exact ⟨hmessage, Filter.accepts_conversation.mpr hplace⟩
    · intro h page message hmessage
      obtain ⟨hmem, haccepts⟩ := of_mem_listMessages hmessage
      exact h place rfl message hmem (Filter.accepts_conversation.mp haccepts)

/-! ### Stores in which messages pass between participants -/

/-- Whether a message passes between two different participants of its conversation. -/
def Message.IsApt (message : Message) (store : Store) : Prop :=
  message.sender ≠ message.receiver ∧
    ∃ place, store.findConversation message.conversation = some place ∧
      message.sender ∈ place.participants ∧ message.receiver ∈ place.participants

/-- Whether all messages of a store do. -/
def Store.Apt (store : Store) : Prop :=
  ∀ message ∈ store.messages, message.IsApt store

/-- Whether a message that is sent as drafted will. -/
def Draft.IsApt (draft : Draft) (store : Store) : Prop :=
  draft.sender ≠ draft.receiver ∧
    ∀ place, store.findConversation draft.conversation = some place →
      draft.sender ∈ place.participants ∧ draft.receiver ∈ place.participants

/-- What passed between two different participants of a conversation of just two users passed
between the two. -/
theorem Message.IsApt.isBetween {message : Message} {store : Store} (h : message.IsApt store)
    {place : Conversation} (hplace : store.findConversation message.conversation = some place)
    {a b : String} (hbetween : place.IsBetween a b) : message.IsBetween a b := by
  obtain ⟨hne, place', hplace', hsender, hreceiver⟩ := h
  obtain rfl : place = place' := Option.some.inj (hplace.symm.trans hplace')
  rcases (hbetween _).mp hsender with hs | hs <;> rcases (hbetween _).mp hreceiver with hr | hr
  · exact absurd (hs.trans hr.symm) hne
  · exact .inl ⟨hs, hr⟩
  · exact .inr ⟨hs, hr⟩
  · exact absurd (hs.trans hr.symm) hne

/-- How a household comes to be in which messages pass between participants only: it begins with
such messages, and whoever opens conversations or sends messages sends only such. -/
inductive Household.Careful (house : Household σ) : σ → Prop
  | begun {outside : σ} (hneat : house.Neat outside) (hapt : (house.store outside).Apt) :
      house.Careful outside
  | opened {outside : σ} (h : house.Careful outside) (participants : List String) :
      house.Careful ((Repository.ofStore house).createConversation participants outside).2
  | sent {outside : σ} (h : house.Careful outside) (draft : Draft)
      (hdraft : draft.IsApt (house.store outside)) :
      house.Careful ((Repository.ofStore house).createMessage draft outside).2

section Careful

variable {house : Household σ} {before after outside : σ}

theorem Household.Adds.apt {opened : List Conversation} {sent : List Message}
    (h : house.Adds before opened sent after) (hapt : (house.store before).Apt)
    (hsent : ∀ message ∈ sent, message.IsApt (house.store after)) : (house.store after).Apt := by
  intro message hmessage
  rw [h.messages] at hmessage
  rcases List.mem_append.mp hmessage with hold | hnew
  · obtain ⟨hne, place, hplace, hmembers⟩ := hapt message hold
    exact ⟨hne, place, h.findConversation hplace, hmembers⟩
  · exact hsent message hnew

/-- As long as only apt messages are sent, all messages are apt. -/
theorem Household.Careful.apt (hlawful : house.Lawful) (h : house.Careful outside) :
    house.Neat outside ∧ (house.store outside).Apt := by
  induction h with
  | begun hneat hapt => exact ⟨hneat, hapt⟩
  | opened _ participants ih =>
    obtain ⟨hneat, hapt⟩ := ih
    by_cases hsome : participants = []
    · subst hsome
      exact ⟨hneat, hapt⟩
    · obtain ⟨place, after, hcall, -, hadds⟩ := hneat.createConversation hlawful hsome
      rw [hcall]
      exact ⟨hadds.neat, hadds.apt hapt (by simp)⟩
  | @sent outside _ draft hdraft ih =>
    obtain ⟨hneat, hapt⟩ := ih
    cases hplace : (house.store outside).findConversation draft.conversation with
    | none =>
      have hcreate := createMessage_grows hlawful hneat.toTidy draft
      rw [hplace] at hcreate
      obtain ⟨fault, hcall⟩ := hcreate
      rw [hcall]
      exact ⟨hneat, hapt⟩
    | some place =>
      obtain ⟨message, after, hcall, hconversation, ⟨hsender, hreceiver, -⟩, hadds⟩ :=
        hneat.createMessage hlawful draft (by rw [hplace]; rfl)
      rw [hcall]
      refine ⟨hadds.neat, hadds.apt hapt fun other hother ↦ ?_⟩
      rw [List.mem_singleton.mp hother, Message.IsApt, hsender, hreceiver, hconversation]
      exact ⟨hdraft.1, place, hadds.findConversation hplace, hdraft.2 place hplace⟩

theorem Household.Careful.conversationWith (h : house.Careful outside) (assistant actor : String) :
    house.Careful (Recorder.conversationWith ⟨.ofStore house, assistant⟩ actor outside).2 := by
  rw [Recorder.conversationWith, Consult.outside_bind, findConversationOf_ofStore]
  cases (house.store outside).findConversationOf [assistant, actor] with
  | none => exact h.opened _
  | some place => exact h

/-- Both users take part in the conversation that is chosen for them. -/
theorem Store.Chooses.hasEvery {store : Store} {users : List String} {place : Conversation}
    {opened : List Conversation} (h : store.Chooses users place opened) :
    place.hasEvery users := by
  cases h with
  | found hfound => exact (Store.of_findConversationOf hfound).2
  | opened _ husers =>
    subst husers
    simp [Conversation.hasEvery, Conversation.has]

/-- Whoever records exchanges with others than the assistant sends only apt messages. -/
theorem Household.Careful.record (hlawful : house.Lawful) (h : house.Careful outside)
    {assistant : String} {note : Note} (hactor : note.actor ≠ assistant) :
    house.Careful (note.record ⟨.ofStore house, assistant⟩ outside).2 := by
  cases hblank : note.isBlank with
  | true => rwa [(note.record_of_blank _ hblank outside).2]
  | false =>
    obtain ⟨place, opened, houtcome, hchooses, hadds, hplace⟩ :=
      conversationWith_adds hlawful (h.apt hlawful).1 assistant note.actor
    have hfind := hadds.neat.findConversation hplace
    obtain ⟨hassistant, hactor'⟩ := Conversation.hasEvery_pair.mp hchooses.hasEvery
    have hsent := (h.conversationWith assistant note.actor).sent (note.draft assistant place) ?_
    · rw [(note.record_of_not_blank _ hblank outside).2, Note.write, Consult.outside_bind,
        houtcome]
      dsimp only
      rwa [note.outside_send]
    · cases note with
      | task actor text =>
        refine ⟨hactor, fun other hother ↦ ?_⟩
        obtain rfl : place = other := Option.some.inj (hfind.symm.trans hother)
        exact ⟨hactor', hassistant⟩
      | answer actor text =>
        refine ⟨Ne.symm hactor, fun other hother ↦ ?_⟩
        obtain rfl : place = other := Option.some.inj (hfind.symm.trans hother)
        exact ⟨hassistant, hactor'⟩

/-- Asked for a page of the messages between two users, the operation leaves everything as it is and
answers with this page of the first conversation in which both take part, or with nothing if there
is none. On all pages there are only messages that passed between the two exactly if all messages of
that conversation did. So it is if nobody else takes part in it, where only messages between
participants were sent. -/
theorem listed_between_iff (hlawful : house.Lawful) (outside : σ) (a b : String) :
    let store := house.store outside
    let onlyTheirs := ∀ page, ∀ message ∈ store.messagesBetween a b page, message.IsBetween a b
    (∀ object limit start context, AsksBetween object a b limit start →
      let called := (getConversationMessagesBetweenUsers (.ofStore house)).invoke (.obj object)
        context outside
      called.1.outcome =
          .ok (messagesJson (store.messagesBetween a b ⟨start.getD 0, limit⟩)) ∧
        called.2 = outside) ∧
    (onlyTheirs ↔ ∀ place ∈ store.findConversationOf [a, b], ∀ message ∈ store.messages,
      message.conversation = place.id → message.IsBetween a b) ∧
    (house.Careful outside →
      (∀ place ∈ store.findConversationOf [a, b], place.IsBetween a b) → onlyTheirs) := by
  intro store onlyTheirs
  have hiff : onlyTheirs ↔ _ := store.messagesBetween_iff a b
  refine ⟨fun object limit start context hasks ↦ invoke_between house hasks context outside, hiff,
    fun hcareful hbetween ↦ hiff.mpr fun place hplace message hmessage hid ↦ ?_⟩
  obtain ⟨hneat, hapt⟩ := hcareful.apt hlawful
  have hfind := hneat.findConversation (Store.of_findConversationOf hplace).1
  rw [← hid] at hfind
  exact (hapt message hmessage).isBetween hfind (hbetween place hplace)

/-- One conversation of two users among others, and a message in it. -/
theorem listed_between_iff_pair :
    let seed : Seed :=
      ⟨[], [⟨"c-1", ["b", "c"], ⟨0, 0⟩⟩, ⟨"c-2", ["b", "a"], ⟨0, 0⟩⟩],
        [⟨"m-1", "c-2", "a", "b", "hi", ⟨0, 0⟩⟩, ⟨"m-2", "c-1", "c", "b", "hello", ⟨0, 0⟩⟩]⟩
    let memory : Memory := { messages := seed.store, now := ⟨0, 0⟩, ids := growingId }
    let object : List (String × Json) :=
      [("limit", .nat 3), ("senderId", .str "a"), ("receiverId", .str "b")]
    Memory.household.Lawful ∧ AsksBetween object "a" "b" (some 3) none ∧
      Memory.household.Careful memory ∧
      (∀ place ∈ seed.store.findConversationOf ["a", "b"], place.IsBetween "a" "b") ∧
      ((getConversationMessagesBetweenUsers (.ofStore Memory.household)).invoke (.obj object) ⟨"a"⟩
        memory).1.outcome = .ok (messagesJson [⟨"m-1", "c-2", "a", "b", "hi", ⟨0, 0⟩⟩]) ∧
      ∀ page, ∀ message ∈ seed.store.messagesBetween "a" "b" page, message.IsBetween "a" "b" := by
  intro seed memory object
  have hneat : Memory.household.Neat memory :=
    seed.neat _ eq_of_growingId (notMem_growingId (by decide))
  have hasks : AsksBetween object "a" "b" (some 3) none :=
    ⟨by decide, rfl, rfl, rfl, rfl, by simp, by simp⟩
  have hapt : seed.store.Apt := by
    intro message hmessage
    rcases List.mem_pair.mp hmessage with rfl | rfl
    · exact ⟨by decide, ⟨"c-2", ["b", "a"], ⟨0, 0⟩⟩, rfl, by decide, by decide⟩
    · exact ⟨by decide, ⟨"c-1", ["b", "c"], ⟨0, 0⟩⟩, rfl, by decide, by decide⟩
  have hcareful : Memory.household.Careful memory := .begun hneat hapt
  have hpair : ∀ place ∈ seed.store.findConversationOf ["a", "b"], place.IsBetween "a" "b" := by
    intro place hplace
    obtain rfl : (⟨"c-2", ["b", "a"], ⟨0, 0⟩⟩ : Conversation) = place := Option.some.inj hplace
    decide
  have hlisted : seed.store.messagesBetween "a" "b" ⟨0, some 3⟩ =
      [⟨"m-1", "c-2", "a", "b", "hi", ⟨0, 0⟩⟩] := by
    change Page.of ⟨0, some 3⟩ (Store.newestFirst [⟨"m-1", "c-2", "a", "b", "hi", ⟨0, 0⟩⟩]) = _
    simp [Store.newestFirst, Page.of]
  obtain ⟨hcalled, -, hbetween⟩ := listed_between_iff Memory.lawful_household memory "a" "b"
  refine ⟨Memory.lawful_household, hasks, hcareful, hpair, ?_, hbetween hcareful hpair⟩
  rw [← hlisted]
  exact (hcalled object (some 3) none ⟨"a"⟩ hasks).1

/-- What somebody else has sent in a conversation of three is listed as a message between the other
two. -/
theorem listed_among_three :
    let message : Message := ⟨"m-1", "c-1", "c", "a", "hi", ⟨0, 0⟩⟩
    let seed : Seed := ⟨[], [⟨"c-1", ["a", "b", "c"], ⟨0, 0⟩⟩], [message]⟩
    let memory : Memory := { messages := seed.store, now := ⟨0, 0⟩, ids := growingId }
    ((getConversationMessagesBetweenUsers (.ofStore Memory.household)).invoke
        (.obj [("senderId", .str "a"), ("receiverId", .str "b")]) ⟨"a"⟩ memory).1.outcome =
          .ok (messagesJson [message]) ∧
      ¬ message.IsBetween "a" "b" := by
  intro message seed memory
  have hasks : AsksBetween [("senderId", .str "a"), ("receiverId", .str "b")] "a" "b" none none :=
    ⟨by decide, rfl, rfl, rfl, rfl, by simp, by simp⟩
  have hlisted : seed.store.messagesBetween "a" "b" {} = [message] := by
    change Page.of {} (Store.newestFirst [message]) = _
    simp [Store.newestFirst, Page.of]
  refine ⟨?_, by decide⟩
  rw [← hlisted]
  exact (invoke_between Memory.household hasks ⟨"a"⟩ memory).1

end Careful

end Errand.Messaging
