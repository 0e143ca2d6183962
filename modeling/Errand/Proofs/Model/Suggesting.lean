import Errand.Proofs.Json.Unasked
import Errand.Proofs.Model.Prompting

/-!
# What a model suggests

A model that is asked for replies may put its object amid prose. The object is cut out from the
first opening brace to the last closing one, so it is found whatever braces stand in its strings, as
long as there are none around it (`bracedPart_object`). Asking is never at fault
(`outcome_suggest`), so there are always replies: those that the text of the answer suggests or else
those that are kept for the purpose. `suggest_replies` says which they are, and that an object that
was written with a list of replies suggests this list.
-/

set_option autoImplicit false

namespace Errand.Model

open Messaging (Line)

variable {σ : Type}

/-! ### The object amid prose -/

/-- A text in braces is cut out from what stands around it. -/
theorem bracedPart_object {before inner after : List Char} (hbefore : '{' ∉ before)
    (hafter : '}' ∉ after) :
    bracedPart (before ++ ('{' :: inner ++ ['}']) ++ after) = '{' :: inner ++ ['}'] := by
  have hother {c : Char} {text : List Char} (hc : c ∉ text) : ∀ d ∈ text, (d != c) = true :=
    fun d hd ↦ bne_iff_ne.mpr fun heq ↦ hc (heq ▸ hd)
  have hstart : (before ++ ('{' :: inner ++ ['}'] ++ after)).takeWhile (· != '{') = before :=
    Text.takeWhile_append_of_head (hother hbefore) (by simp)
  have hend : ('{' :: inner ++ ['}'] ++ after).reverse.dropWhile (· != '}') =
      ('{' :: inner ++ ['}']).reverse := by
    rw [List.reverse_append, List.dropWhile_append_of_pos (by simpa using hother hafter),
      Text.dropWhile_eq_self (by simp)]
  rw [List.append_assoc]
  simp only [bracedPart, hstart, List.drop_left, hend, List.reverse_reverse]
  rfl

/-- An object is written in braces, in either layout. -/
theorem exists_inner_of_object (fields : List (String × Json)) :
    (∃ inner, Json.write (.obj fields) = '{' :: inner ++ ['}']) ∧
      ∃ inner, Json.writePretty 0 (.obj fields) = '{' :: inner ++ ['}'] := by
  refine ⟨⟨_, rfl⟩, ?_⟩
  cases fields with
  | nil => exact ⟨[], rfl⟩
  | cons field fields =>
    exact ⟨Json.writePrettyFields 1 (field :: fields) ++ Json.lineStart 0,
      by simp [Json.writePretty]⟩

/-- Replies are decoded as they were written. -/
theorem decode_replies (replies : List String) :
    Json.Decode.list Json.Decode.string { fromText := true, depth := 1 }
      (.ofWritten (.arr (replies.map .str))) = .ok replies := by
  have hwritten : Json.Source.ofWritten (.arr (replies.map .str)) =
      .ofJson (.arr (replies.map .str)) := by
    rw [Json.Source.ofWritten, Json.Source.ofJson]
    congr 1
    induction replies with
    | nil => rfl
    | cons reply replies ih =>
      rw [List.map_cons, Json.Source.ofWrittenItems, Json.Source.ofItems, ih]
      rfl
  rw [hwritten]
  exact Json.Decode.list_arr Json.Decode.string Json.str replies (by decide) fun _ ↦ rfl

/-- An object with a list of replies suggests this list, whatever prose and fields stand around it.
-/
theorem readReplies_of_object {text before after : List Char} {front back : List (String × Json)}
    {replies : List String} (hreplies : replies ≠ []) (hbefore : '{' ∉ before)
    (hafter : '}' ∉ after) (hfront : "replies" ∉ Entries.names front)
    (hback : "replies" ∉ Entries.names back)
    (htext : text = Json.write (.obj (front ++ ("replies", .arr (replies.map .str)) :: back)) ∨
      text = Json.writePretty 0 (.obj (front ++ ("replies", .arr (replies.map .str)) :: back))) :
    readReplies (String.ofList (before ++ text ++ after)) = some replies := by
  have hbraced : bracedPart (before ++ text ++ after) = text := by
    obtain ⟨⟨inner, hinner⟩, ⟨inner', hinner'⟩⟩ :=
      exists_inner_of_object (front ++ ("replies", .arr (replies.map .str)) :: back)
    rcases htext with rfl | rfl
    · rw [hinner, bracedPart_object hbefore hafter]
    · rw [hinner', bracedPart_object hbefore hafter]
  have hdecode := Json.decodeText_required "struct RepliesBody" hfront hback
    (decode_replies replies) htext
  obtain ⟨reply, others, rfl⟩ := List.exists_cons_of_ne_nil hreplies
  rw [readReplies, String.toList_ofList, hbraced, repliesDecoder, hdecode]

/-! ### What comes of asking -/

/-- The replies to a conversation, given what came of the question. -/
def repliesOf : Except Fault Completion → List String
  | .error _ => fallbackReplies
  | .ok completion => (readReplies completion.text).getD fallbackReplies

/-- What a text suggests are some replies at least. -/
theorem ne_nil_of_readReplies {text : String} {replies : List String}
    (h : readReplies text = some replies) : replies ≠ [] := by
  rw [readReplies] at h
  split at h
  · cases h
    exact List.cons_ne_nil _ _
  · cases h

theorem repliesOf_ne_nil (answer : Except Fault Completion) : repliesOf answer ≠ [] := by
  rcases answer with fault | completion
  · exact List.cons_ne_nil _ _
  · rw [repliesOf]
    cases hread : readReplies completion.text with
    | none => exact List.cons_ne_nil _ _
    | some replies => exact ne_nil_of_readReplies hread

/-- Having replies suggested is never at fault. -/
theorem outcome_suggest (binding : Binding σ) (lines : List Line) (outside : σ) :
    let asked : Binding σ := { binding with temperature := suggestionTemperature }
    (suggest binding lines outside).1.outcome =
      .ok (repliesOf (binding.provider.complete binding.transport
        (asked.request (replyPrompt lines)) outside).1.outcome) := by
  intro asked
  have hattempt : ((asked.complete "smart_replies" (replyPrompt lines)).attempt outside).1.outcome =
      .ok ((binding.provider.complete binding.transport (asked.request (replyPrompt lines))
        outside).1.outcome.map (·.text)) :=
    congrArg Except.ok (Binding.outcome_complete_eq_map _ _ _)
  change (((asked.complete "smart_replies" (replyPrompt lines)).attempt >>= _)
    outside).1.outcome = _
  rw [Consult.outcome_bind, hattempt]
  rcases (binding.provider.complete binding.transport (asked.request (replyPrompt lines))
    outside).1.outcome with fault | completion <;> rfl

/-- Whatever comes of asking a model, there are replies: those that the text of its answer suggests,
and if there is no answer or the text suggests none, those that are kept for this. An object with a
list of replies suggests this list, in either layout, whatever characters are in the replies and
whatever fields stand beside them, if the prose around it has no braces. -/
theorem suggest_replies (binding : Binding σ) (lines : List Line) (outside : σ) :
    let asked : Binding σ := { binding with temperature := suggestionTemperature }
    let answer := (binding.provider.complete binding.transport
      (asked.request (replyPrompt lines)) outside).1.outcome
    (∃ replies, (suggest binding lines outside).1.outcome = .ok replies ∧ replies ≠ [] ∧
      (∀ completion suggested, answer = .ok completion →
        readReplies completion.text = some suggested → replies = suggested) ∧
      ((∀ completion, answer = .ok completion → readReplies completion.text = none) →
        replies = fallbackReplies)) ∧
    ∀ (completion : Completion) (before after : String) (front back : List (String × Json))
        (replies : List String), answer = .ok completion → replies ≠ [] →
      (∀ c ∈ before.toList ++ after.toList, c ≠ '{' ∧ c ≠ '}') →
      "replies" ∉ Entries.names front → "replies" ∉ Entries.names back →
      let object := Json.obj (front ++ ("replies", .arr (replies.map .str)) :: back)
      (completion.text = before ++ object.compact ++ after ∨
        completion.text = before ++ object.pretty ++ after) →
      (suggest binding lines outside).1.outcome = .ok replies := by
  intro asked answer
  have houtcome := outcome_suggest binding lines outside
  constructor
  · refine ⟨repliesOf answer, houtcome, repliesOf_ne_nil answer, ?_, ?_⟩
    · intro completion suggested hanswer hread
      rw [hanswer, repliesOf, hread, Option.getD_some]
    · intro hnone
      rcases hanswer : answer with fault | completion
      · rfl
      · rw [repliesOf, hnone completion hanswer, Option.getD_none]
  · intro completion before after front back replies hanswer hreplies hprose hfront hback object
      htext
    have hbefore : '{' ∉ before.toList := fun hmem ↦
      (hprose '{' (List.mem_append_left _ hmem)).1 rfl
    have hafter : '}' ∉ after.toList := fun hmem ↦
      (hprose '}' (List.mem_append_right _ hmem)).2 rfl
    obtain ⟨text, htext', hlayout⟩ : ∃ text,
        completion.text = String.ofList (before.toList ++ text ++ after.toList) ∧
          (text = object.write ∨ text = object.writePretty 0) := by
      rcases htext with htext | htext
      · exact ⟨_, by simp [htext, Json.compact, String.append_assoc], .inl rfl⟩
      · exact ⟨_, by simp [htext, Json.pretty, String.append_assoc], .inr rfl⟩
    have hread := readReplies_of_object hreplies hbefore hafter hfront hback hlayout
    rw [← htext'] at hread
    rw [houtcome]
    change Except.ok (repliesOf answer) = _
    rw [hanswer, repliesOf, hread, Option.getD_some]

/-- Three replies with braces and quotes in them, on lines of their own beside a number that is not
whole, in a fence. -/
theorem suggest_replies_fenced :
    let replies := ["Sure \x7b:\x7d", "\x7dno\x7b", "\"Maybe\"\n"]
    let object := Json.obj ([("mood", .real ⟨false, 3, -1⟩)] ++
      ("replies", .arr (replies.map .str)) :: [("done", .bool true)])
    let text := "Here:\n\x60\x60\x60json\n" ++ object.pretty ++ "\n\x60\x60\x60"
    let value : Json := .obj [("model", .str "m"),
      ("choices", .arr [.obj [("message", .obj [("content", .str text)])]])]
    let binding : Binding Unit :=
      { transport := .constant value [], provider := .ollama, model := "m" }
    (suggest binding [⟨"user1", "Coming?"⟩] ()).1.outcome = .ok replies := by
  intro replies object text value binding
  have hanswer : (binding.provider.complete binding.transport
      ({ binding with temperature := suggestionTemperature }.request
        (replyPrompt [⟨"user1", "Coming?"⟩])) ()).1.outcome = .ok { model := "m", text } := by
    decide +kernel
  obtain ⟨-, hreplies⟩ := suggest_replies binding [⟨"user1", "Coming?"⟩] ()
  exact hreplies { model := "m", text } "Here:\n\x60\x60\x60json\n" "\n\x60\x60\x60"
    [("mood", .real ⟨false, 3, -1⟩)] [("done", .bool true)] replies hanswer (by decide)
    (by simp) (by decide) (by decide) (.inr rfl)

end Errand.Model
