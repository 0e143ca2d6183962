import Errand.Proofs.Gateway.Calls
import Errand.Proofs.Messaging.Listing
import Errand.Proofs.Messaging.Pseudonyms
import Errand.Proofs.Service.Household

/-!
# The recent part of a conversation

Replies are suggested to the messages that were sent in a conversation from an instant on, which
lies a window before now (`IsEarlierBy`). They come from a listing that puts the newest first, and
are turned round: the oldest first, and of one time the one that was sent first (`exists_recent`).

`suggests_recent` says that whoever suggests replies is asked once, for these messages under the
pseudonyms of their senders, and is not asked if there is no such conversation.
-/

set_option autoImplicit false

namespace Errand

open Service (Memory growingId)

/-! ### Instants before others -/

namespace Time.Instant

/-- Whether an instant is one of those there are. -/
structure InRange (instant : Instant) : Prop where
  first_le : first.seconds ≤ instant.seconds
  le_last : instant.seconds ≤ last.seconds
  nanos_lt : instant.nanos < 2000000000

/-- Whether an instant is some nanoseconds earlier than another, and not before the earliest. -/
structure IsEarlierBy (start : Instant) (nanos : Nat) (instant : Instant) : Prop where
  first_le : first.seconds ≤ start.seconds
  nanos_lt : start.nanos < 1000000000
  sinceStart_eq : start.sinceStart + nanos = instant.sinceStart

theorem before?_eq_some_iff {start instant : Instant} {nanos : Nat} :
    instant.before? nanos = some start ↔ start.IsEarlierBy nanos instant := by
  obtain ⟨seconds, rest⟩ := start
  constructor
  · intro h
    simp only [before?] at h
    split at h
    · next hle =>
      simp only [Option.some.injEq, Instant.mk.injEq] at h
      obtain ⟨rfl, rfl⟩ := h
      refine ⟨hle, ?_, ?_⟩
      · dsimp only
        omega
      · rw [sinceStart]
        dsimp only
        omega
    · cases h
  · rintro ⟨hle, hlt, hsum⟩
    dsimp only at hle hlt
    have hstart : instant.sinceStart - nanos = seconds * 1000000000 + rest := by
      rw [← hsum]
      exact add_sub_cancel_right _ _
    have hseconds : (instant.sinceStart - nanos) / 1000000000 = seconds := by omega
    have hrest : ((instant.sinceStart - nanos) % 1000000000).toNat = rest := by omega
    rw [before?]
    dsimp only
    rw [hseconds, hrest, if_pos hle]

end Time.Instant

namespace Messaging

open Time (Instant)

variable {σ : Type}

namespace SmartReplies

/-- No window between two instants is too long. -/
theorem le_longestWindow {start now : Instant} {window : Nat} (hnow : now.InRange)
    (hstart : start.IsEarlierBy window now) : window ≤ longestWindow := by
  have hfirst : Instant.first.seconds = -8334601228800 := by decide
  have hlast : Instant.last.seconds = 8210266876799 := by decide
  have hlongest : longestWindow = 9223372036854775807000000 := by decide
  have hle := hstart.first_le
  have hsum := hstart.sinceStart_eq
  have hupper := hnow.le_last
  have hnanos := hnow.nanos_lt
  rw [Instant.sinceStart, Instant.sinceStart] at hsum
  omega

/-! ### What is asked -/

variable {replies : SmartReplies σ} {conversation : String} {outside between after : σ}

/-- Nobody is asked for replies where there is no conversation. -/
theorem forConversation_of_missing
    (hfind : replies.repository.findConversation conversation outside =
      ({ outcome := .ok none }, after)) :
    replies.forConversation conversation outside =
      ({ outcome := .error (.notFound ("Conversation '" ++ conversation ++ "' not found")) },
        after) := by
  rw [forConversation, Consult.bind_of_ok hfind]
  rfl

/-- Whether replies are suggested for a conversation that there is depends on when the window
begins. -/
theorem forConversation_of_found {place : Conversation}
    (hfind : replies.repository.findConversation conversation outside =
      ({ outcome := .ok (some place) }, between))
    (hwindow : replies.window ≤ longestWindow) :
    replies.forConversation conversation outside =
      match (replies.now between).before? replies.window with
      | none => ({ outcome := .ok none }, between)
      | some since =>
        (replies.recentLines conversation since >>= fun lines ↦ some <$> replies.suggest lines)
          between := by
  have hnow : (Consult.modify fun outside ↦ (.ok (replies.now outside), outside)) between =
      ({ outcome := .ok (replies.now between) }, between) := rfl
  rw [forConversation, Consult.bind_of_ok hfind]
  dsimp only
  rw [if_neg (Nat.not_lt.mpr hwindow), Consult.bind_of_ok hnow]
  cases (replies.now between).before? replies.window <;> rfl

/-- They are suggested to what is listed from then on, the other way round. -/
theorem forConversation_of_listed {place : Conversation} {since : Instant} {listed : List Message}
    (hfind : replies.repository.findConversation conversation outside =
      ({ outcome := .ok (some place) }, between))
    (hwindow : replies.window ≤ longestWindow)
    (hsince : since.IsEarlierBy replies.window (replies.now between))
    (hlist : replies.repository.listMessages
        { conversation := some conversation, since := some since } {} between =
      ({ outcome := .ok listed }, after)) :
    replies.forConversation conversation outside =
      (some <$> replies.suggest (anonymize listed.reverse)) after := by
  have hrecent : replies.recentLines conversation since between =
      ({ outcome := .ok (anonymize listed.reverse) }, after) := by
    rw [recentLines, Consult.bind_of_ok hlist]
    rfl
  rw [forConversation_of_found hfind hwindow, Instant.before?_eq_some_iff.mpr hsince]
  dsimp only
  rw [Consult.bind_of_ok hrecent]

end SmartReplies

/-! ### What is listed -/

/-- The messages of a conversation from an instant on, each with its place in the order of sending.
-/
def Store.sentSince (store : Store) (conversation : String) (since : Instant) :
    List (Message × Nat) :=
  store.messages.zipIdx.filter fun entry ↦
    entry.1.conversation == conversation && since.le entry.1.createdAt

theorem Store.matching_since (store : Store) (conversation : String) (since : Instant) :
    store.matching { conversation := some conversation, since := some since } =
      store.sentSince conversation since := by
  refine List.filter_congr fun entry _ ↦ ?_
  simp [Filter.accepts, BEq.comm]

/-- There is one way to put the messages from an instant on in order, the oldest first and of one
time the one that was sent first, and the listing turned round is in this order. -/
theorem Store.exists_recent (store : Store) (conversation : String) (since : Instant) :
    ∃ recent : List (Message × Nat),
      (∀ other, other.Perm (store.sentSince conversation since) ∧
        other.Pairwise (fun a b ↦ ListedBefore b a) ↔ other = recent) ∧
      (store.listMessages { conversation := some conversation, since := some since } {}).reverse =
        recent.map Prod.fst := by
  obtain ⟨ranked, hperm, hranked, hlisted⟩ :=
    store.exists_ranked { conversation := some conversation, since := some since }
  rw [store.matching_since] at hperm
  have hrecent := (List.reverse_perm ranked).trans hperm
  have hpairwise : ranked.reverse.Pairwise fun a b ↦ ListedBefore b a :=
    List.pairwise_reverse.mpr hranked
  refine ⟨ranked.reverse, fun other ↦ ⟨fun hother ↦ ?_, ?_⟩, ?_⟩
  · -- No two messages are before each other, so that one arrangement is in order.
    exact List.Perm.eq_of_pairwise (fun a b _ _ hab hba ↦ (hab.asymm hba).elim) hother.2 hpairwise
      (hother.1.trans hrecent.symm)
  · rintro rfl
    exact ⟨hrecent, hpairwise⟩
  · rw [List.map_reverse, ← hlisted]
    rfl

/-- If there is no conversation with an id, a request for replies to it says so, and nobody is asked
for them. If there is one, they are asked for once, for the messages in it that were sent no earlier
than a window before now: every such message once, the oldest first and of one time the one that was
sent first, each under `user` and the number that its sender has in the order of first appearance.
What is suggested is the answer. -/
theorem suggests_recent (house : Household σ) (replies : SmartReplies σ) (conversation : String)
    (outside : σ) :
    let store := house.store outside
    let served : SmartReplies σ := { replies with repository := .ofStore house }
    let called := served.logged.forConversation conversation (outside, [])
    let calls := called.2.2
    (store.findConversation conversation = none →
      called.1.outcome =
          .error (.notFound ("Conversation '" ++ conversation ++ "' not found")) ∧
        calls = [.findConversation conversation] ∧ called.2.1 = outside) ∧
    (∀ place ∈ store.findConversation conversation, ∀ since : Instant,
      (replies.now outside).InRange →
      since.IsEarlierBy replies.window (replies.now outside) →
      ∃ recent : List (Message × Nat),
        (∀ other, other.Perm (store.messages.zipIdx.filter fun entry ↦
            entry.1.conversation == conversation && since.le entry.1.createdAt) ∧
          other.Pairwise (fun a b ↦ a.1.createdAt.le b.1.createdAt ∧
            (b.1.createdAt = a.1.createdAt → a.2 < b.2)) ↔ other = recent) ∧
        let messages := recent.map Prod.fst
        let senders := (messages.map (·.sender)).eraseDups
        let lines : List Line := messages.map fun message ↦
          { sender := "user" ++ toString (senders.idxOf message.sender + 1)
            message := message.content }
        calls = [.findConversation conversation,
            .listMessages { conversation := some conversation, since := some since } {},
            .suggest lines] ∧
          called.1.outcome = (replies.suggest lines outside).1.outcome.map some ∧
          called.2.1 = (replies.suggest lines outside).2) := by
  intro store served called calls
  constructor
  · intro hnone
    have hfind : served.logged.repository.findConversation conversation (outside, []) =
        ({ outcome := .ok none }, (outside, [.findConversation conversation])) := by
      rw [← hnone]
      rfl
    have hcalled : called = _ := SmartReplies.forConversation_of_missing hfind
    simp only [calls, hcalled, and_self]
  · intro place hplace since hnow hsince
    obtain ⟨recent, honly, hlisted⟩ := store.exists_recent conversation since
    refine ⟨recent, honly, ?_⟩
    intro messages senders lines
    have hfind : served.logged.repository.findConversation conversation (outside, []) =
        ({ outcome := .ok (some place) }, (outside, [.findConversation conversation])) := by
      rw [← show store.findConversation conversation = some place from hplace]
      rfl
    have hlines : anonymize messages = lines := anonymize_eq_map messages
    have hcalled : called = _ := SmartReplies.forConversation_of_listed hfind
      (SmartReplies.le_longestWindow hnow hsince) hsince rfl
    rw [hlisted, hlines] at hcalled
    refine ⟨?_, ?_, ?_⟩
    · simp only [calls, hcalled, Consult.outside_map]
      rfl
    · rw [hcalled, Consult.outcome_map]
      rfl
    · rw [hcalled, Consult.outside_map]
      rfl

/-- Of five messages one was sent before the window and one in another conversation. Of the others
two were sent at one time, and one at the very start of the window. -/
theorem suggests_recent_level :
    let message (id conversation sender : String) (seconds : Int) : Message :=
      ⟨id, conversation, sender, "x", id, ⟨seconds, 0⟩⟩
    let seed : Seed := ⟨[], [⟨"c-1", ["a", "b"], ⟨0, 0⟩⟩],
      [message "m-1" "c-1" "b" 7, message "m-2" "c-1" "a" 7, message "m-3" "c-1" "b" 5,
        message "m-4" "c-2" "b" 6, message "m-5" "c-1" "a" 4]⟩
    let memory : Memory := { messages := seed.store, now := ⟨10, 0⟩, ids := growingId }
    let replies : SmartReplies Memory :=
      { repository := .ofStore Memory.household, window := 5000000000, now := (·.now)
        suggest := fun lines ↦ .succeed (lines.map (·.sender)) }
    let called (id : String) := replies.logged.forConversation id (memory, [])
    (⟨10, 0⟩ : Instant).InRange ∧ (⟨5, 0⟩ : Instant).IsEarlierBy 5000000000 ⟨10, 0⟩ ∧
      seed.store.findConversation "c-1" = some ⟨"c-1", ["a", "b"], ⟨0, 0⟩⟩ ∧
      (called "c-1").2.2 = [.findConversation "c-1",
        .listMessages { conversation := some "c-1", since := some ⟨5, 0⟩ } {},
        .suggest [⟨"user1", "m-3"⟩, ⟨"user1", "m-1"⟩, ⟨"user2", "m-2"⟩]] ∧
      (called "c-1").1.outcome = .ok (some ["user1", "user1", "user2"]) ∧
      seed.store.findConversation "c-2" = none ∧
      (called "c-2").1.outcome = .error (.notFound "Conversation 'c-2' not found") ∧
      (called "c-2").2.2 = [.findConversation "c-2"] := by
  intro message seed memory replies called
  have hnow : (⟨10, 0⟩ : Instant).InRange := ⟨by decide, by decide, by decide⟩
  have hsince : (⟨5, 0⟩ : Instant).IsEarlierBy 5000000000 ⟨10, 0⟩ := ⟨by decide, by decide, rfl⟩
  have hfound : seed.store.findConversation "c-1" = some ⟨"c-1", ["a", "b"], ⟨0, 0⟩⟩ := rfl
  obtain ⟨-, hthere⟩ := suggests_recent Memory.household replies "c-1" memory
  obtain ⟨recent, honly, hcalls, houtcome, -⟩ := hthere _ hfound ⟨5, 0⟩ hnow hsince
  obtain ⟨hmissing, -⟩ := suggests_recent Memory.household replies "c-2" memory
  obtain ⟨hfault, hasked, -⟩ := hmissing rfl
  have hrecent : [(message "m-3" "c-1" "b" 5, 2), (message "m-1" "c-1" "b" 7, 0),
      (message "m-2" "c-1" "a" 7, 1)] = recent := by
    refine (honly _).mp ⟨by decide, ?_⟩
    simp [message, Instant.le]
  subst hrecent
  have hlines : anonymize [message "m-3" "c-1" "b" 5, message "m-1" "c-1" "b" 7,
      message "m-2" "c-1" "a" 7] = [⟨"user1", "m-3"⟩, ⟨"user1", "m-1"⟩, ⟨"user2", "m-2"⟩] := by
    decide
  rw [anonymize_eq_map] at hlines
  have hsuggested := congrArg (fun lines : List Line ↦ ([.findConversation "c-1",
    .listMessages { conversation := some "c-1", since := some ⟨5, 0⟩ } {},
    .suggest lines] : List Call)) hlines
  have hanswered := congrArg (fun lines : List Line ↦
    (Except.ok (some (lines.map (·.sender))) : Except Fault (Option (List String)))) hlines
  exact ⟨hnow, hsince, hfound, hcalls.trans hsuggested, houtcome.trans hanswered, rfl, hfault,
    hasked⟩

end Messaging

end Errand
