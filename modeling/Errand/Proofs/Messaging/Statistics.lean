import Errand.Proofs.Messaging.Between

/-!
# The statistics of a user

The operation that counts the messages of a user tells three numbers: of the messages that the user
sent, of those that the user received, and both together. What users send to themselves is among the
first and among the second, so that it counts twice in the third (`countP_or_add_countP_and`).

`statistics_total` says that the third number exceeds the number of messages that involve the user
by exactly these.
-/

set_option autoImplicit false

namespace Errand.Messaging

open Service (Memory growingId)

variable {σ α : Type}

/-! ### Counting -/

/-- Two tests are passed as often as one of them is, and again as often as both are. -/
theorem countP_or_add_countP_and (p q : α → Bool) (items : List α) :
    items.countP (fun a ↦ p a || q a) + items.countP (fun a ↦ p a && q a) =
      items.countP p + items.countP q := by
  induction items with
  | nil => rfl
  | cons a items ih =>
    simp only [List.countP_cons]
    cases p a <;> cases q a <;> simp <;> omega

section Count

variable (store : Store) (user : String)

theorem Store.countMessages_sender :
    store.countMessages { sender := some user } = store.messages.countP (·.sender == user) := by
  refine List.countP_congr fun message _ ↦ ?_
  simp only [Filter.accepts, Option.all_none, Option.all_some, Bool.true_and, Bool.and_true,
    beq_iff_eq]
  exact eq_comm

theorem Store.countMessages_receiver :
    store.countMessages { receiver := some user } =
      store.messages.countP (·.receiver == user) := by
  refine List.countP_congr fun message _ ↦ ?_
  simp only [Filter.accepts, Option.all_none, Option.all_some, Bool.true_and, Bool.and_true,
    beq_iff_eq]
  exact eq_comm

theorem Store.countMessages_involving :
    store.countMessages { involving := some user } =
      store.messages.countP fun message ↦ message.sender == user || message.receiver == user := by
  refine List.countP_congr fun message _ ↦ ?_
  simp [Filter.accepts]

end Count

/-! ### What the operation tells -/

/-- Whether an object of parameters names a user. -/
structure NamesUser (object : List (String × Json)) (user : String) : Prop where
  nodup : (Entries.names object).Nodup
  lookup : object.lookup "userId" = some (.str user)

/-- Asked for the statistics of a user, the operation leaves everything as it is and tells how many
messages of the store the user sent, how many the user received, and the sum of both. The sum is the
number of messages that involve the user, and once more the number of those that the user sent to
themselves; so it counts every message once exactly if there are none of these. -/
theorem statistics_total (house : Household σ) (outside : σ) {object : List (String × Json)}
    {user : String} (hobject : NamesUser object user) (context : Operation.Context) :
    let store := house.store outside
    let called := (getUserMessageStatistics (.ofStore house)).invoke (.obj object) context outside
    let sent := store.messages.countP (·.sender == user)
    let received := store.messages.countP (·.receiver == user)
    let involving := store.countMessages { involving := some user }
    let own := store.messages.countP fun message ↦
      message.sender == user && message.receiver == user
    called.1.outcome = .ok (.obj [("sentCount", .nat sent), ("receivedCount", .nat received),
        ("totalCount", .nat (sent + received))]) ∧
      called.2 = outside ∧
      sent + received = involving + own ∧
      (sent + received = involving ↔ ∀ message ∈ store.messages,
        message.sender = user → message.receiver ≠ user) := by
  intro store called sent received involving own
  have hcalled : called = _ := congrFun (invoke_messagingOperation
    (Json.Fields.decoder_obj _ (by decide) hobject.nodup (give_textField hobject.lookup)) context)
    outside
  have hsum : sent + received = involving + own := by
    rw [show involving = _ from store.countMessages_involving user]
    exact (countP_or_add_countP_and _ _ store.messages).symm
  have hown : own = 0 ↔ ∀ message ∈ store.messages,
      message.sender = user → message.receiver ≠ user := by
    simp [own, List.countP_eq_zero]
  refine ⟨?_, ?_, hsum, ?_⟩
  · simp only [sent, received]
    rw [hcalled, ← store.countMessages_sender, ← store.countMessages_receiver]
    rfl
  · rw [hcalled]
    rfl
  · rw [hsum, ← hown]
    omega

/-- Of three messages one was sent by the user to somebody else, one to themselves, and one between
others. -/
theorem statistics_total_with_own :
    let message (sender receiver : String) : Message :=
      ⟨"m-1", "c-1", sender, receiver, "hi", ⟨0, 0⟩⟩
    let memory : Memory :=
      { messages := { messages := [message "a" "b", message "a" "a", message "b" "c"] }
        now := ⟨0, 0⟩, ids := growingId }
    let object : List (String × Json) := [("userId", .str "a")]
    NamesUser object "a" ∧
      ((getUserMessageStatistics (.ofStore Memory.household)).invoke (.obj object) ⟨"a"⟩
        memory).1.outcome = .ok (.obj [("sentCount", .nat 2), ("receivedCount", .nat 1),
          ("totalCount", .nat 3)]) ∧
      memory.messages.countMessages { involving := some "a" } = 2 := by
  intro message memory object
  have hobject : NamesUser object "a" := ⟨by decide, rfl⟩
  obtain ⟨houtcome, -, hsum, -⟩ := statistics_total Memory.household memory hobject ⟨"a"⟩
  have hinvolving : memory.messages.countMessages { involving := some "a" } = 2 := by decide
  refine ⟨hobject, ?_, hinvolving⟩
  rw [houtcome, hsum]
  rfl

/-- A message that a user sent to themselves is one message and counts as two. -/
theorem statistics_of_own_message :
    let message : Message := ⟨"m-1", "c-1", "a", "a", "hi", ⟨0, 0⟩⟩
    let memory : Memory :=
      { messages := { messages := [message] }, now := ⟨0, 0⟩, ids := growingId }
    ((getUserMessageStatistics (.ofStore Memory.household)).invoke
        (.obj [("userId", .str "a")]) ⟨"a"⟩ memory).1.outcome =
          .ok (.obj [("sentCount", .nat 1), ("receivedCount", .nat 1), ("totalCount", .nat 2)]) ∧
      memory.messages.countMessages { involving := some "a" } = 1 := by
  intro message memory
  refine ⟨?_, by decide⟩
  rfl

end Errand.Messaging
