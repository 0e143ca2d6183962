import Mathlib
import Errand.Messaging.Replies

/-!
# Pseudonyms

Whoever suggests replies sees messages under pseudonyms. A pseudonym tells which place its sender
has among the senders of all the messages, in the order of their first appearance
(`anonymize_eq_map`), and nothing else. So two messages have the same pseudonym exactly if they have
the same sender (`sender_anonymize_eq_iff`), and messages whose senders were renamed in such a way
that different ones stay different are seen as before (`anonymize_rename`).
-/

set_option autoImplicit false

namespace Errand.Messaging

/-! ### Numbering -/

/-- The senders of messages, each once, in the order of their first appearance. -/
def senders (messages : List Message) : List String :=
  (messages.map (·.sender)).eraseDups

theorem mem_senders {messages : List Message} {message : Message} (h : message ∈ messages) :
    message.sender ∈ senders messages :=
  List.mem_eraseDups.mpr (List.mem_map_of_mem h)

/-- The sender of one more message comes last if it is new. -/
theorem senders_concat (messages : List Message) (message : Message) :
    senders (messages ++ [message]) =
      if (senders messages).contains message.sender then senders messages
      else senders messages ++ [message.sender] := by
  have hmem : (senders messages).contains message.sender =
      (messages.map (·.sender)).contains message.sender := by
    simp only [senders, List.contains_eq_mem, List.mem_eraseDups]
  rw [hmem, senders, List.map_append, List.map_singleton, List.eraseDups_append, ← senders,
    List.removeAll, List.filter_singleton, List.elem_eq_contains]
  cases (messages.map (·.sender)).contains message.sender with
  | true => exact List.append_nil _
  | false => rfl

theorem senders_isPrefix (messages more : List Message) :
    senders messages <+: senders (messages ++ more) := by
  rw [senders, senders, List.map_append, List.eraseDups_append]
  exact List.prefix_append _ _

/-- The place of a sender is the number of senders before them, whether they are new or not, and
later messages do not change it. -/
theorem idxOf_senders (passed rest : List Message) (message : Message) :
    (senders (passed ++ message :: rest)).idxOf message.sender =
      (senders passed).idxOf message.sender := by
  have hprefix := senders_isPrefix (passed ++ [message]) rest
  rw [List.append_assoc, List.singleton_append] at hprefix
  rw [← hprefix.idxOf_eq_of_mem (mem_senders (by simp)), senders_concat]
  by_cases h : message.sender ∈ senders passed
  · simp [h]
  · rw [List.contains_eq_mem, decide_eq_false h, if_neg Bool.false_ne_true,
      List.idxOf_append_of_notMem h, List.idxOf_eq_length_iff.mpr h]
    simp

/-- A message under the pseudonym that its sender has among some senders. -/
def Message.toLine (message : Message) (among : List String) : Line :=
  { sender := pseudonym (among.idxOf message.sender), message := message.content }

/-- Messages that follow others are seen under the numbers that all of them together give. -/
theorem anonymizeAfter_senders (passed messages : List Message) :
    anonymizeAfter (senders passed) messages =
      messages.map (·.toLine (senders (passed ++ messages))) := by
  induction messages generalizing passed with
  | nil => rfl
  | cons message rest ih =>
    rw [anonymizeAfter, ← senders_concat, ih, List.append_assoc, List.singleton_append,
      List.map_cons, Message.toLine, idxOf_senders]

/-- Every message is seen under the place that its sender has among all senders. -/
theorem anonymize_eq_map (messages : List Message) :
    anonymize messages = messages.map (·.toLine (senders messages)) :=
  anonymizeAfter_senders [] messages

/-! ### What pseudonyms tell -/

theorem pseudonym_inj {place other : Nat} : pseudonym place = pseudonym other ↔ place = other := by
  refine ⟨fun h ↦ ?_, congrArg pseudonym⟩
  have hnumber : toString (place + 1) = toString (other + 1) :=
    (String.append_right_inj "user").mp h
  exact Nat.succ.inj (Nat.repr_inj.mp hnumber)

/-- Two messages have the same pseudonym exactly if they have the same sender. -/
theorem sender_anonymize_eq_iff (messages : List Message) (i j : Nat) :
    ((anonymize messages).map (·.sender))[i]? = ((anonymize messages).map (·.sender))[j]? ↔
      (messages.map (·.sender))[i]? = (messages.map (·.sender))[j]? := by
  rw [anonymize_eq_map]
  simp only [List.map_map, List.getElem?_map]
  rcases hi : messages[i]? with _ | message <;> rcases hj : messages[j]? with _ | other
  · simp
  · simp
  · simp
  · have hmessage := mem_senders (List.mem_of_getElem? hi)
    simp only [Option.map_some, Option.some.injEq, Function.comp, Message.toLine, pseudonym_inj]
    exact List.idxOf_inj hmessage

/-! ### Renaming users -/

section Rename

variable {f : String → String}

/-- A user under another id. -/
def User.rename (f : String → String) (user : User) : User :=
  { user with id := f user.id }

/-- A conversation with renamed participants. -/
def Conversation.rename (f : String → String) (conversation : Conversation) : Conversation :=
  { conversation with participants := conversation.participants.map f }

/-- A message between renamed users. -/
def Message.rename (f : String → String) (message : Message) : Message :=
  { message with sender := f message.sender, receiver := f message.receiver }

/-- A store with renamed users; everything else stays as it is. -/
def Store.rename (f : String → String) (store : Store) : Store where
  users := store.users.map fun entry ↦ (f entry.1, entry.2.rename f)
  conversations := store.conversations.map fun entry ↦ (entry.1, entry.2.rename f)
  messages := store.messages.map (·.rename f)

theorem Store.findConversation_rename (store : Store) (id : String) :
    (store.rename f).findConversation id = (store.findConversation id).map (·.rename f) := by
  simp only [findConversation, rename]
  induction store.conversations with
  | nil => rfl
  | cons entry rest ih =>
    rw [List.map_cons, List.lookup_cons, List.lookup_cons, ih]
    split <;> rfl

theorem Store.newestFirst_rename (messages : List Message) :
    newestFirst (messages.map (·.rename f)) = (newestFirst messages).map (·.rename f) := by
  rw [newestFirst, newestFirst, ← List.map_reverse]
  symm
  apply List.map_mergeSort
  exact fun _ _ _ _ ↦ rfl

/-- A filter that does not ask for users lists the same messages as before, under the new names. -/
theorem Store.listMessages_rename (store : Store) (filter : Filter)
    (hfilter : ∀ message : Message, filter.accepts (message.rename f) = filter.accepts message) :
    (store.rename f).listMessages filter {} = (store.listMessages filter {}).map (·.rename f) := by
  change newestFirst ((store.messages.map _).filter filter.accepts) =
    (newestFirst (store.messages.filter filter.accepts)).map _
  have haccepts : filter.accepts ∘ (·.rename f) = filter.accepts := funext hfilter
  rw [List.filter_map, haccepts, newestFirst_rename]

/-- Renamed senders have the same places. -/
theorem anonymizeAfter_rename (hf : Function.Injective f) (seen : List String)
    (messages : List Message) :
    anonymizeAfter (seen.map f) (messages.map (·.rename f)) = anonymizeAfter seen messages := by
  induction messages generalizing seen with
  | nil => rfl
  | cons message rest ih =>
    have hplace : (seen.map f).idxOf (f message.sender) = seen.idxOf message.sender := by
      rw [List.idxOf, List.findIdx_map]
      refine congrArg (List.findIdx · seen) (funext fun other ↦ ?_)
      exact hf.beq_eq
    have hseen : (seen.map f).contains (f message.sender) = seen.contains message.sender := by
      simp [List.contains_eq_mem, hf.eq_iff]
    have hnext : (if seen.contains message.sender then seen.map f
        else seen.map f ++ [f message.sender]) =
        (if seen.contains message.sender then seen else seen ++ [message.sender]).map f := by
      split <;> simp
    simp only [List.map_cons, anonymizeAfter, Message.rename, hplace, hseen, hnext]
    exact congrArg _ (ih _)

/-- Messages between renamed users are seen as before. -/
theorem anonymize_rename (hf : Function.Injective f) (messages : List Message) :
    anonymize (messages.map (·.rename f)) = anonymize messages :=
  anonymizeAfter_rename hf [] messages

end Rename

end Errand.Messaging
