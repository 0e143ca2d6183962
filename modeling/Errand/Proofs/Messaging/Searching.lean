import Errand.Messaging.Store
import Errand.Proofs.Text.Lowering

/-!
# Searching messages and users

Messages are searched by their contents and users by their names, without regard to case. Both sides
are put into lower case on their own, and only then is one looked for in the other. So a text that
stands in a content or in a name word for word is found there if each of its `Σ` is read alike in
both; `search_verbatim` says for which texts this never fails.
-/

set_option autoImplicit false

namespace Errand.Messaging

open Text (ReadsAlike)

section Mentions

variable {text part : String} {before after : List Char}

/-- A text is mentioned where it stands and reads alike. -/
theorem mentions_of_readsAlike (htext : text.toList = before ++ part.toList ++ after)
    (h : ReadsAlike before part.toList after) : mentions text part := by
  rw [mentions, htext]
  exact h.contains_lower

/-- A text is mentioned wherever it stands exactly if it reads alike between any two texts. -/
theorem mentions_iff (part : String) :
    (∀ text : String, part.toList <:+: text.toList → mentions text part) ↔
      ∀ before after, ReadsAlike before part.toList after := by
  rw [← Text.contains_lower_iff]
  constructor
  · intro h text hinfix
    have hmentions := h (String.ofList text) (by rwa [String.toList_ofList])
    rwa [mentions, String.toList_ofList] at hmentions
  · exact fun h text hinfix ↦ h text.toList hinfix

theorem Filter.accepts_contains (part : String) (message : Message) :
    Filter.accepts { contains := some part } message = mentions message.content part := by
  simp [Filter.accepts]

theorem Store.mem_searchUsers {store : Store} {user : User} {name : String} :
    user ∈ store.searchUsers name ↔ user ∈ store.users.map (·.2) ∧ mentions user.name name :=
  List.mem_filter

end Mentions

/-- A message whose content has a text word for word passes the filter that asks for this text, and
a user whose name has it is found, if at that place each `Σ` of the text ends a word exactly if it
does in the text on its own. All messages and all users that have the text are found exactly if it
reads alike between any two texts, as a text without `Σ` does. -/
theorem search_verbatim (part : String) :
    let everywhere := ∀ before after, ReadsAlike before part.toList after
    (∀ (message : Message) (before after : List Char),
      message.content.toList = before ++ part.toList ++ after →
      ReadsAlike before part.toList after →
      Filter.accepts { contains := some part } message) ∧
    (∀ store : Store, ∀ user ∈ store.users.map (·.2), ∀ before after : List Char,
      user.name.toList = before ++ part.toList ++ after → ReadsAlike before part.toList after →
      user ∈ store.searchUsers part) ∧
    ((∀ message : Message, part.toList <:+: message.content.toList →
      Filter.accepts { contains := some part } message) ↔ everywhere) ∧
    ((∀ store : Store, ∀ user ∈ store.users.map (·.2), part.toList <:+: user.name.toList →
      user ∈ store.searchUsers part) ↔ everywhere) ∧
    ('Σ' ∉ part.toList → everywhere) := by
  intro everywhere
  simp only [Filter.accepts_contains, Store.mem_searchUsers]
  refine ⟨fun message before after htext halike ↦ mentions_of_readsAlike htext halike,
    fun store user huser before after htext halike ↦
      ⟨huser, mentions_of_readsAlike htext halike⟩, ?_, ?_,
    fun hnone before after ↦ Text.readsAlike_of_notMem hnone⟩
  · refine ⟨fun h ↦ (mentions_iff part).mp fun text hinfix ↦ ?_, fun h message hinfix ↦
      (mentions_iff part).mpr h message.content hinfix⟩
    exact h ⟨"m-1", "c-1", "a", "b", text, ⟨0, 0⟩⟩ hinfix
  · refine ⟨fun h ↦ (mentions_iff part).mp fun text hinfix ↦ ?_, fun h store user huser hinfix ↦
      ⟨huser, (mentions_iff part).mpr h user.name hinfix⟩⟩
    let user : User := { id := "a", email := "a@b", name := text, createdAt := ⟨0, 0⟩ }
    exact (h { users := [("a", user)] } user List.mem_cons_self hinfix).2

/-- The end of a word is found at the end of another word. -/
theorem search_verbatim_end_of_word :
    let message : Message := ⟨"m-1", "c-1", "a", "b", "Η ΟΔΟΣ ΜΟΥ", ⟨0, 0⟩⟩
    let user : User := { id := "a", email := "a@b", name := "ΝΙΚΟΣ", createdAt := ⟨0, 0⟩ }
    let store : Store := { users := [("a", user)] }
    message.content.toList = "Η ΟΔ".toList ++ "ΟΣ".toList ++ " ΜΟΥ".toList ∧
      ReadsAlike "Η ΟΔ".toList "ΟΣ".toList " ΜΟΥ".toList ∧
      user ∈ store.users.map (·.2) ∧ user.name.toList = "ΝΙΚ".toList ++ "ΟΣ".toList ++ [] ∧
      ReadsAlike "ΝΙΚ".toList "ΟΣ".toList [] ∧
      Filter.accepts { contains := some "ΟΣ" } message ∧ user ∈ store.searchUsers "ΟΣ" ∧
      'Σ' ∉ "ΟΔ".toList ∧ ReadsAlike "Η ".toList "ΟΔ".toList "ΟΣ ΜΟΥ".toList := by
  intro message user store
  obtain ⟨hmessages, husers, -, -, -⟩ := search_verbatim "ΟΣ"
  have hcontent : message.content.toList = "Η ΟΔ".toList ++ "ΟΣ".toList ++ " ΜΟΥ".toList := by
    decide
  have hname : user.name.toList = "ΝΙΚ".toList ++ "ΟΣ".toList ++ [] := by decide
  have hinside : ReadsAlike "Η ΟΔ".toList "ΟΣ".toList " ΜΟΥ".toList := by decide +kernel
  have hend : ReadsAlike "ΝΙΚ".toList "ΟΣ".toList [] := by decide +kernel
  have huser : user ∈ store.users.map (·.2) := List.mem_cons_self
  exact ⟨hcontent, hinside, huser, hname, hend, hmessages message _ _ hcontent hinside,
    husers store user huser _ _ hname hend, by decide,
    (search_verbatim "ΟΔ").2.2.2.2 (by decide) _ _⟩

/-- A text that ends in `Σ` is not found where a word goes on behind it. -/
theorem search_inside_word :
    let message : Message := ⟨"m-1", "c-1", "a", "b", "ΑΣΑ", ⟨0, 0⟩⟩
    let user : User := { id := "a", email := "a@b", name := "ΑΣΑ", createdAt := ⟨0, 0⟩ }
    let store : Store := { users := [("a", user)] }
    "ΑΣ".toList <:+: message.content.toList ∧
      ¬ Filter.accepts { contains := some "ΑΣ" } message ∧
      "ΑΣ".toList <:+: user.name.toList ∧ user ∈ store.users.map (·.2) ∧
      user ∉ store.searchUsers "ΑΣ" := by
  decide +kernel

end Errand.Messaging
