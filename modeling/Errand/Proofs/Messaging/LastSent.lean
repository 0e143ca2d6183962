import Errand.Proofs.Messaging.Between

/-!
# Recording apart from what users sent

Who asks what a user sent last is not told of messages to the assistant. A recorder sends nothing
else in the name of a user, and what it sends in the name of the assistant is no user's. So none of
it is ever let pass by the filter of that question (`spares_record`), and as a page is cut out of
what the filter lets pass, no page is shifted: after any notes were recorded, the operation answers
as it did before (`lastSent_of_recorded`).
-/

set_option autoImplicit false

namespace Errand.Messaging

open Json (Fields Place Source)
open Service (Memory growingId)

variable {σ α : Type}

/-! ### Calls that a filter does not notice -/

section Spares

variable {house : Household σ} {filter : Filter}

/-- Whether a call leaves the messages that a filter lets pass as they were. -/
def Household.Spares (house : Household σ) (filter : Filter) (call : Consult σ α) : Prop :=
  ∀ outside, (house.store (call outside).2).messages.filter filter.accepts =
    (house.store outside).messages.filter filter.accepts

theorem spares_answer (outcome : Except Fault α) :
    house.Spares filter (Consult.answer outcome) :=
  fun _ ↦ rfl

theorem Household.Spares.bind {β : Type} {call : Consult σ α} {next : α → Consult σ β}
    (hcall : house.Spares filter call) (hnext : ∀ a, house.Spares filter (next a)) :
    house.Spares filter (call >>= next) := by
  intro outside
  rw [Consult.outside_bind]
  cases (call outside).1.outcome with
  | error fault => exact hcall outside
  | ok a => exact (hnext a _).trans (hcall outside)

/-- What is put into a store is not noticed if the filter does not let it pass. -/
theorem spares_create (hlawful : house.Lawful)
    {add : Store → String → Time.Instant → Except Fault (α × Store)}
    (hadd : ∀ store id now a store', add store id now = .ok (a, store') →
      store'.messages.filter filter.accepts = store.messages.filter filter.accepts) :
    house.Spares filter (Repository.create house add) := by
  intro outside
  rw [Repository.create, Consult.modify]
  cases hadded : add (house.store outside) (house.mint outside).1 (house.now outside) with
  | error fault => simp only [hadded]
  | ok added =>
    obtain ⟨a, store⟩ := added
    simp only [hadded, hlawful.store_setStore]
    exact hadd _ _ _ _ _ hadded

theorem spares_createConversation (hlawful : house.Lawful) (participants : List String) :
    house.Spares filter ((Repository.ofStore house).createConversation participants) := by
  refine spares_create hlawful fun store id now place store' hopened ↦ ?_
  rw [Store.createConversation] at hopened
  split at hopened <;> cases hopened
  rfl

/-- A message that the filter does not let pass is sent without notice. -/
theorem spares_createMessage (hlawful : house.Lawful) {draft : Draft}
    (hdraft : ∀ id now, filter.accepts (draft.toMessage id now) = false) :
    house.Spares filter ((Repository.ofStore house).createMessage draft) := by
  refine spares_create hlawful fun store id now message store' hsent ↦ ?_
  rw [Store.createMessage] at hsent
  split at hsent <;> cases hsent
  simp [hdraft id now]

theorem closed_spares (hlawful : house.Lawful) (filter : Filter) :
    house.Closed (house.Spares filter) where
  answer := spares_answer
  look _ _ := rfl
  createConversation := spares_createConversation hlawful
  bind := .bind

end Spares

/-! ### Recording -/

section Record

variable {house : Household σ}

/-- A property of calls that is closed holds of recording a note if it holds of sending it. -/
theorem Household.Closed.record {P : {α : Type} → Consult σ α → Prop} (h : house.Closed P)
    (assistant : String) (note : Note)
    (hsend : ∀ place, P ((Repository.ofStore house).createMessage (note.draft assistant place))) :
    P (note.record ⟨.ofStore house, assistant⟩) := by
  have hmap {α : Type} (call : Consult σ α) (f : α → Receipt) (hcall : P call) : P (f <$> call) :=
    h.bind hcall fun a ↦ h.answer (.ok (f a))
  cases note with
  | task actor text =>
    refine hmap _ _ (h.bind (h.conversationWith assistant actor) fun place ↦ ?_)
    exact h.bind (hsend place) fun _ ↦ h.answer (.ok place)
  | answer actor text =>
    refine hmap _ _ ?_
    unfold Recorder.recordAnswer
    split
    · exact h.answer (.ok none)
    · exact h.bind (h.conversationWith assistant actor) fun place ↦
        h.bind (hsend place) fun message ↦ h.answer (.ok (some message))

/-- What is asked for with the messages that a user sent last. -/
def lastSentFilter (assistant sender : String) : Filter :=
  { sender := some sender, excludeReceiver := some assistant }

/-- What is sent for a note goes to the assistant or comes from it. -/
theorem not_accepts_draft {assistant sender : String} (hne : sender ≠ assistant) (note : Note)
    (place : Conversation) (id : String) (now : Time.Instant) :
    (lastSentFilter assistant sender).accepts
      ((note.draft assistant place).toMessage id now) = false := by
  cases note <;> simp [lastSentFilter, Filter.accepts, Note.draft, Draft.toMessage, hne]

/-- A note is recorded without any notice for who asks what a user sent last. -/
theorem spares_record (hlawful : house.Lawful) {assistant sender : String}
    (hne : sender ≠ assistant) (note : Note) :
    house.Spares (lastSentFilter assistant sender) (note.record ⟨.ofStore house, assistant⟩) :=
  (closed_spares hlawful _).record assistant note fun place ↦
    spares_createMessage hlawful (not_accepts_draft hne note place)

/-- What everything outside comes to by recording one note after another. -/
def recordAll (recorder : Recorder σ) (notes : List Note) (outside : σ) : σ :=
  notes.foldl (fun outside note ↦ (note.record recorder outside).2) outside

/-- So are any number of notes. -/
theorem filter_recordAll (hlawful : house.Lawful) {assistant sender : String}
    (hne : sender ≠ assistant) (notes : List Note) (outside : σ) :
    let recorder : Recorder σ := ⟨.ofStore house, assistant⟩
    (house.store (recordAll recorder notes outside)).messages.filter
        (lastSentFilter assistant sender).accepts =
      (house.store outside).messages.filter (lastSentFilter assistant sender).accepts := by
  intro recorder
  induction notes generalizing outside with
  | nil => rfl
  | cons note notes ih => exact (ih _).trans (spares_record hlawful hne note outside)

end Record

/-! ### What a user sent last -/

/-- Whether an object of parameters asks for a page of what a user sent last. -/
structure AsksLastSent (object : List (String × Json)) (sender : String)
    (limit start : Option Nat) : Prop where
  nodup : (Entries.names object).Nodup
  lookup_sender : object.lookup "senderId" = some (.str sender)
  lookup_limit : object.lookup "limit" = limit.map .nat
  lookup_start : object.lookup "start" = start.map .nat
  limit_lt : ∀ n ∈ limit, n < 2 ^ 64
  start_lt : ∀ n ∈ start, n < 2 ^ 64

/-- The fields of the parameters. -/
def lastSentFields : Fields (String × Option Nat × Option Nat) :=
  Fields.done (fun sender limit start ↦ (sender, limit, start))
    |>.and (textField "senderId") |>.and (countField "limit") |>.and (countField "start")

/-- Who is asked about stands under the name for the sender. -/
theorem sender_of_decoded {object : List (String × Json)} {sender : String}
    {asked : String × Option Nat × Option Nat}
    (hlookup : object.lookup "senderId" = some (.str sender))
    (h : lastSentFields.decoder ("struct " ++ "LastSentParams") { fromText := false }
      (.ofJson (.obj object)) = .ok asked) : asked.1 = sender := by
  obtain ⟨withLimit, start, hlimit, -, rfl⟩ := Fields.and_eq_ok (Fields.decode_of_decoder_obj h)
  obtain ⟨withSender, limit, hsender, -, rfl⟩ := Fields.and_eq_ok hlimit
  obtain ⟨make, found, hmake, hfound, rfl⟩ := Fields.and_eq_ok hsender
  cases hmake
  refine Except.ok.inj (hfound.symm.trans ?_)
  exact give_textField hlookup _ (Json.shows_foundIn object)

/-- Parameters that are not decoded are refused, whatever there is outside. -/
theorem invoke_messagingOperation_of_error {name description title : String}
    {parameters : List Operation.Parameter} {fields : Fields α}
    {run : α → Operation.Context → Consult σ Json} {value : Json} {error : Json.DecodeError}
    (h : fields.decoder ("struct " ++ title) { fromText := false } (.ofJson value) = .error error)
    (context : Operation.Context) :
    ∃ fault, (messagingOperation name description title parameters fields run).invoke value
      context = Consult.fail fault := by
  cases error <;>
    simp only [messagingOperation, Operation.ofShape, Operation.decodeParameters, Json.decodeValue,
      h]
  all_goals exact ⟨_, rfl⟩

/-- The answer to who asks what a user sent last, once the parameters have been decoded. -/
theorem invoke_lastSent (house : Household σ) (assistant : String) {object : List (String × Json)}
    {asked : String × Option Nat × Option Nat}
    (h : lastSentFields.decoder ("struct " ++ "LastSentParams") { fromText := false }
      (.ofJson (.obj object)) = .ok asked) (context : Operation.Context) (outside : σ) :
    ((getLastSentMessages (.ofStore house) assistant).invoke (.obj object) context outside).1 =
      { outcome := .ok (messagesJson ((house.store outside).listMessages
          (lastSentFilter assistant asked.1)
          ⟨asked.2.2.getD 0, some (asked.2.1.getD defaultLastSent)⟩)) } := by
  exact congrArg Prod.fst (congrFun (invoke_messagingOperation h context) outside)

/-- Whatever is asked about a user, the answer is the same for two states in which this user has
sent the same to others than the assistant. -/
theorem invoke_lastSent_congr {house : Household σ} {assistant sender : String}
    {object : List (String × Json)} (hlookup : object.lookup "senderId" = some (.str sender))
    {before after : σ}
    (hsent : (house.store after).messages.filter (lastSentFilter assistant sender).accepts =
      (house.store before).messages.filter (lastSentFilter assistant sender).accepts)
    (context : Operation.Context) :
    let lastSent := (getLastSentMessages (.ofStore house) assistant).invoke (.obj object) context
    (lastSent after).1 = (lastSent before).1 := by
  intro lastSent
  cases hdecoded : lastSentFields.decoder ("struct " ++ "LastSentParams") { fromText := false }
      (.ofJson (.obj object)) with
  | ok asked =>
    have hlist := sender_of_decoded hlookup hdecoded
    rw [invoke_lastSent house assistant hdecoded, invoke_lastSent house assistant hdecoded, hlist]
    simp only [Store.listMessages, hsent]
  | error error =>
    obtain ⟨fault, hfail⟩ : ∃ fault, lastSent = Consult.fail fault :=
      invoke_messagingOperation_of_error hdecoded context
    rw [hfail]
    rfl

/-- Whatever was recorded, and however often, the operation that lists what a user other than the
assistant sent last answers as it did before, whatever limit and start are given. If these are
counts or are left out, the answer is a page of the messages of the user to others than the
assistant. -/
theorem lastSent_of_recorded {house : Household σ} (hlawful : house.Lawful)
    {assistant sender : String} (hne : sender ≠ assistant) (notes : List Note) (before : σ)
    {object : List (String × Json)} (hlookup : object.lookup "senderId" = some (.str sender))
    (context : Operation.Context) :
    let after := recordAll ⟨.ofStore house, assistant⟩ notes before
    let lastSent := (getLastSentMessages (.ofStore house) assistant).invoke (.obj object) context
    (lastSent after).1 = (lastSent before).1 ∧
      ∀ limit start, AsksLastSent object sender limit start →
        (lastSent after).1.outcome = .ok (messagesJson ((house.store before).listMessages
          (lastSentFilter assistant sender)
          ⟨start.getD 0, some (limit.getD defaultLastSent)⟩)) := by
  intro after lastSent
  have hsame : (lastSent after).1 = (lastSent before).1 :=
    invoke_lastSent_congr hlookup (filter_recordAll hlawful hne notes before) context
  refine ⟨hsame, fun limit start hasks ↦ ?_⟩
  have hgive (place : Place) : lastSentFields.Give place object (sender, limit, start) :=
    .and (.and (.and (.done _) (give_textField hasks.lookup_sender))
      (give_countField hasks.lookup_limit hasks.limit_lt))
      (give_countField hasks.lookup_start hasks.start_lt)
  have hdecoded : lastSentFields.decoder ("struct " ++ "LastSentParams") { fromText := false }
      (.ofJson (.obj object)) = .ok (sender, limit, start) :=
    Fields.decoder_obj _ (by decide) hasks.nodup (hgive _)
  rw [hsame]
  exact congrArg Reply.outcome (invoke_lastSent house assistant hdecoded context before)

/-- Of two messages to another user, the second is on a page of its own. It stays there when tasks
of both users and an answer are recorded, the task and the answer between the two messages in time.
-/
theorem lastSent_of_recorded_between :
    let message (id : String) (seconds : Int) : Message :=
      ⟨id, "c-1", "a", "b", id, ⟨seconds, 0⟩⟩
    let seed : Seed :=
      ⟨[], [⟨"c-1", ["a", "b"], ⟨0, 0⟩⟩], [message "m-1" 5, message "m-2" 15]⟩
    let memory : Memory := { messages := seed.store, now := ⟨10, 0⟩, ids := growingId }
    let notes : List Note := [.task "a" "greet", .answer "a" "done", .task "b" "wait"]
    let after := recordAll ⟨.ofStore Memory.household, "assistant"⟩ notes memory
    let object : List (String × Json) :=
      [("senderId", .str "a"), ("limit", .nat 1), ("start", .nat 1)]
    let lastSent := (getLastSentMessages (.ofStore Memory.household) "assistant").invoke
      (.obj object) ⟨"a"⟩
    Memory.household.Lawful ∧ after.messages.messages.length = 5 ∧
      AsksLastSent object "a" (some 1) (some 1) ∧ (lastSent after).1 = (lastSent memory).1 ∧
      (lastSent after).1.outcome = .ok (messagesJson [message "m-1" 5]) := by
  intro message seed memory notes after object lastSent
  have hasks : AsksLastSent object "a" (some 1) (some 1) :=
    ⟨by decide, rfl, rfl, rfl, by simp, by simp⟩
  have hlisted : seed.store.listMessages (lastSentFilter "assistant" "a") ⟨1, some 1⟩ =
      [message "m-1" 5] := by
    cbv
  obtain ⟨hsame, hpage⟩ := lastSent_of_recorded Memory.lawful_household
    (show "a" ≠ "assistant" by decide) notes memory hasks.lookup_sender ⟨"a"⟩
  refine ⟨Memory.lawful_household, by decide +kernel, hasks, hsame, ?_⟩
  rw [← hlisted]
  exact hpage (some 1) (some 1) hasks

end Errand.Messaging
