import Errand.Proofs.Messaging.Recent
import Errand.Proofs.Model.Speaking
import Errand.Service.Memory

/-!
# What a model is told of a conversation

Beside the state outside, the calls of a model can be written down (`Binding.logged`). A model that
is to suggest replies is called once, and its prompt holds the lines that it is given
(`outside_suggest`). As these are under pseudonyms, the prompt tells which messages have one sender
and nothing else about who the senders are: `calls_of_renamed` says that it stays what it is,
character by character, if all users are renamed.
-/

set_option autoImplicit false

namespace Errand

open Time (Instant)
open Messaging (Household Line Message SmartReplies Store anonymize)

variable {σ : Type}

/-! ### Calls that are written down -/

/-- A household that lies beside something else. -/
def Messaging.Household.beside (house : Household σ) (ν : Type) : Household (σ × ν) where
  store := fun (outside, _) ↦ house.store outside
  setStore store := fun (outside, other) ↦ (house.setStore store outside, other)
  mint := fun (outside, other) ↦ ((house.mint outside).1, (house.mint outside).2, other)
  now := fun (outside, _) ↦ house.now outside

namespace Model

/-- A transport that writes down the calls that it carries. -/
def Transport.logged (transport : Transport σ) : Transport (σ × List Call) where
  post call := fun (outside, log) ↦
    ((transport.post call outside).1, (transport.post call outside).2, log ++ [call])
  postStream call := fun (outside, log) ↦
    ((transport.postStream call outside).1, (transport.postStream call outside).2, log ++ [call])

/-- A binding whose calls are written down. -/
def Binding.logged (binding : Binding σ) : Binding (σ × List Call) where
  transport := binding.transport.logged
  provider := binding.provider
  model := binding.model
  temperature := binding.temperature

/-- The prompt for replies to the lines of a conversation. -/
def replyPrompt (lines : List Line) : String :=
  Prompt.smartReply (Json.arr (lines.map Line.toJson)).pretty

/-- The call that asks a model for replies. -/
def Binding.replyCall (binding : Binding σ) (lines : List Line) : Call :=
  binding.provider.call
    ({ binding with temperature := suggestionTemperature }.request (replyPrompt lines)) false

/-- To have replies suggested does to everything outside what its one call does. -/
theorem outside_suggest (binding : Binding σ) (lines : List Line) (outside : σ) :
    (suggest binding lines outside).2 =
      (binding.transport.post (binding.replyCall lines) outside).2 := by
  let asked : Binding σ := { binding with temperature := suggestionTemperature }
  have hasked : (asked.complete "smart_replies" (replyPrompt lines) outside).2 =
      (binding.transport.post (binding.replyCall lines) outside).2 :=
    Binding.outside_complete _ _ _
  rw [← hasked]
  change (Consult.andThen (asked.complete "smart_replies" (replyPrompt lines)).attempt _ outside).2
    = _
  rcases hanswer : asked.complete "smart_replies" (replyPrompt lines) outside with
    ⟨⟨outcome, tokens, samples⟩, after⟩
  cases outcome <;> simp only [Consult.andThen, Consult.attempt, hanswer] <;> rfl

/-! ### What is told -/

/-- The lines to which a model is to suggest replies, if it is asked. -/
def toldLines (store : Store) (conversation : String) (window : Nat) (now : Instant) :
    Option (List Line) := do
  let _ ← store.findConversation conversation
  if SmartReplies.longestWindow < window then none
  else
    let since ← now.before? window
    some (anonymize
      (store.listMessages { conversation := some conversation, since := some since } {}).reverse)

theorem toldLines_rename {f : String → String} (hf : Function.Injective f) (store : Store)
    (conversation : String) (window : Nat) (now : Instant) :
    toldLines (store.rename f) conversation window now =
      toldLines store conversation window now := by
  have hlisted (since : Instant) := store.listMessages_rename (f := f)
    { conversation := some conversation, since := some since } fun _ ↦ rfl
  simp only [toldLines, Store.findConversation_rename, hlisted, ← List.map_reverse,
    Messaging.anonymize_rename hf]
  cases store.findConversation conversation <;> rfl

/-- Replies that a model suggests, beside the calls of the model. -/
def suggested (house : Household σ) (binding : Binding σ) (window : Nat) (now : σ → Instant) :
    SmartReplies (σ × List Call) where
  repository := .ofStore (house.beside (List Call))
  suggest := suggest binding.logged
  window := window
  now := fun (outside, _) ↦ now outside

/-- A model is called once for the lines that it is told, or not at all. -/
theorem calls_suggested (house : Household σ) (binding : Binding σ) (window : Nat)
    (now : σ → Instant) (conversation : String) (outside : σ) :
    ((suggested house binding window now).forConversation conversation (outside, [])).2.2 =
      ((toldLines (house.store outside) conversation window (now outside)).map
        binding.replyCall).toList := by
  let replies := suggested house binding window now
  have hfind : replies.repository.findConversation conversation (outside, []) =
      ({ outcome := .ok ((house.store outside).findConversation conversation) }, (outside, [])) :=
    rfl
  cases hplace : (house.store outside).findConversation conversation with
  | none =>
    rw [hplace] at hfind
    rw [SmartReplies.forConversation_of_missing hfind, toldLines, hplace]
    rfl
  | some place =>
    rw [hplace] at hfind
    have hlines (lines : List Line) :
        ((some <$> replies.suggest lines) (outside, [])).2.2 = [binding.replyCall lines] := by
      rw [Consult.outside_map]
      change (suggest binding.logged lines (outside, [])).2.2 = _
      rw [outside_suggest]
      rfl
    simp only [toldLines, hplace, Option.bind_eq_bind, Option.bind_some]
    -- A model is not called for a window that is too long, nor for one that begins before all time.
    by_cases hwindow : SmartReplies.longestWindow < window
    · rw [if_pos hwindow, SmartReplies.forConversation, Consult.bind_of_ok hfind]
      dsimp only
      rw [suggested, if_pos hwindow]
      rfl
    · rw [if_neg hwindow]
      have hmost : replies.window ≤ SmartReplies.longestWindow := Nat.not_lt.mp hwindow
      cases hbefore : (now outside).before? window with
      | none =>
        have hbefore' : (replies.now (outside, [])).before? replies.window = none := hbefore
        rw [SmartReplies.forConversation_of_found hfind hmost, hbefore']
        rfl
      | some since =>
        rw [SmartReplies.forConversation_of_listed hfind hmost
          (Instant.before?_eq_some_iff.mp hbefore) rfl, hlines]
        rfl

/-- Two stores differ by a renaming of users that keeps different ones different. Whatever the
conversation and the window, a model is called alike for replies, so that its prompt is the same.
If there is the conversation, the model is called once, for the messages of the window under
pseudonyms, and two of these have one pseudonym exactly if they have one sender. -/
theorem calls_of_renamed (house : Household σ) (binding : Binding σ) (window : Nat)
    (now : σ → Instant) (conversation : String) (f : String → String) (outside outside' : σ)
    (hf : Function.Injective f) (hstore : house.store outside' = (house.store outside).rename f)
    (hnow : now outside' = now outside) :
    let calls (outside : σ) : List Call :=
      ((suggested house binding window now).forConversation conversation (outside, [])).2.2
    let store := house.store outside
    calls outside' = calls outside ∧
    ∀ place ∈ store.findConversation conversation, ∀ since : Instant,
      (now outside).InRange → since.IsEarlierBy window (now outside) →
      let messages :=
        (store.listMessages { conversation := some conversation, since := some since } {}).reverse
      let lines := anonymize messages
      calls outside = [binding.replyCall lines] ∧
        ∀ i j : Nat, (lines.map (·.sender))[i]? = (lines.map (·.sender))[j]? ↔
          (messages.map (·.sender))[i]? = (messages.map (·.sender))[j]? := by
  intro calls store
  have hcalls (outside : σ) : calls outside = _ :=
    calls_suggested house binding window now conversation outside
  constructor
  · rw [hcalls, hcalls, hstore, hnow, toldLines_rename hf]
  · intro place hplace since hrange hsince messages lines
    have htold : toldLines store conversation window (now outside) = some lines := by
      have hwindow := SmartReplies.le_longestWindow hrange hsince
      have hfound : store.findConversation conversation = some place := hplace
      rw [toldLines, hfound]
      simp only [Option.bind_eq_bind, Option.bind_some, if_neg (Nat.not_lt.mpr hwindow),
        Instant.before?_eq_some_iff.mpr hsince]
      rfl
    refine ⟨?_, fun i j ↦ Messaging.sender_anonymize_eq_iff messages i j⟩
    rw [hcalls, htold]
    rfl

/-- Three messages by two users, of which two were sent at one time, are told as before when every
user has a longer name. -/
theorem calls_of_renamed_longer :
    let message (id sender : String) (seconds : Int) : Message :=
      ⟨id, "c-1", sender, "x", id, ⟨seconds, 0⟩⟩
    let seed : Messaging.Seed := ⟨[], [⟨"c-1", ["a", "b"], ⟨0, 0⟩⟩],
      [message "m-1" "b" 7, message "m-2" "a" 7, message "m-3" "b" 5]⟩
    let memory : Service.Memory :=
      { messages := seed.store, now := ⟨10, 0⟩, ids := Service.growingId }
    let renamed := { memory with messages := seed.store.rename ("user-" ++ ·) }
    let binding : Binding Service.Memory :=
      { transport := .constant .null [], provider := .ollama, model := "m" }
    let calls (memory : Service.Memory) : List Call :=
      ((suggested Service.Memory.household binding 5000000000 (·.now)).forConversation "c-1"
        (memory, [])).2.2
    Function.Injective ("user-" ++ · : String → String) ∧
      renamed.messages.messages.map (·.sender) = ["user-b", "user-a", "user-b"] ∧
      (⟨10, 0⟩ : Instant).InRange ∧ (⟨5, 0⟩ : Instant).IsEarlierBy 5000000000 ⟨10, 0⟩ ∧
      seed.store.findConversation "c-1" = some ⟨"c-1", ["a", "b"], ⟨0, 0⟩⟩ ∧
      calls renamed = calls memory ∧
      calls memory =
        [binding.replyCall [⟨"user1", "m-3"⟩, ⟨"user1", "m-1"⟩, ⟨"user2", "m-2"⟩]] := by
  intro message seed memory renamed binding calls
  have hinjective : Function.Injective ("user-" ++ · : String → String) :=
    fun _ _ h ↦ (String.append_right_inj "user-").mp h
  have hrange : (⟨10, 0⟩ : Instant).InRange := ⟨by decide, by decide, by decide⟩
  have hsince : (⟨5, 0⟩ : Instant).IsEarlierBy 5000000000 ⟨10, 0⟩ := ⟨by decide, by decide, rfl⟩
  have hfound : seed.store.findConversation "c-1" = some ⟨"c-1", ["a", "b"], ⟨0, 0⟩⟩ := rfl
  obtain ⟨hsame, htold⟩ := calls_of_renamed Service.Memory.household binding 5000000000 (·.now)
    "c-1" ("user-" ++ ·) memory renamed hinjective rfl rfl
  obtain ⟨hcalls, -⟩ := htold _ hfound ⟨5, 0⟩ hrange hsince
  have hlines : anonymize (seed.store.listMessages
      { conversation := some "c-1", since := some ⟨5, 0⟩ } {}).reverse =
      [⟨"user1", "m-3"⟩, ⟨"user1", "m-1"⟩, ⟨"user2", "m-2"⟩] := by
    cbv
  refine ⟨hinjective, by decide, hrange, hsince, hfound, hsame, hcalls.trans ?_⟩
  exact congrArg (fun lines : List Line ↦ [binding.replyCall lines]) hlines

end Model

end Errand
