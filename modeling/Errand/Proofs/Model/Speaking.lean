import Errand.Model.Staff
import Errand.Proofs.Consult
import Errand.Proofs.Model.Chunking
import Errand.Proofs.Run.Inquiry

/-!
# What a model says aloud

A model that is asked for a whole answer sends no tokens, and one that is asked for an answer piece
by piece sends the pieces that the answer is put together from. `join_tokens_converse` says that the
tokens of an answer that is complete make up its text, however they arrived: empty pieces and marks
of the end add nothing to either. Asking does to everything outside what its one call does.
-/

set_option autoImplicit false

namespace Errand.Model

variable {σ α : Type}

/-- Whether a transport brings answers without sending tokens of its own. -/
structure Transport.Silent (transport : Transport σ) : Prop where
  post : ∀ call, (transport.post call).Silent
  postStream : ∀ call, (transport.postStream call).Silent

namespace Provider

variable {provider : Provider} {transport : Transport σ} {request : Request}

theorem silent_complete (h : transport.Silent) :
    (provider.complete transport request).Silent := by
  refine (h.post _).bind fun value ↦ ?_
  cases Chat.readAnswer value with
  | error error => exact Consult.silent_answer _
  | ok completion => exact Consult.silent_answer _

theorem silent_stream (h : transport.Silent) : (provider.stream transport request).Silent :=
  (h.postStream _).bind fun _ ↦ Consult.silent_answer _

theorem outside_complete (outside : σ) :
    (provider.complete transport request outside).2 =
      (transport.post (provider.call request false) outside).2 := by
  rw [complete, Consult.outside_bind]
  cases (transport.post (provider.call request false) outside).1.outcome with
  | error fault => rfl
  | ok value =>
    dsimp only
    cases Chat.readAnswer value <;> rfl

theorem outside_stream (outside : σ) :
    (provider.stream transport request outside).2 =
      (transport.postStream (provider.call request true) outside).2 := by
  rw [stream, Consult.outside_bind]
  cases (transport.postStream (provider.call request true) outside).1.outcome <;> rfl

end Provider

namespace Binding

variable {binding : Binding σ} (purpose prompt : String) (outside : σ)

theorem outside_complete :
    (binding.complete purpose prompt outside).2 =
      (binding.transport.post
        (binding.provider.call (binding.request prompt) false) outside).2 := by
  rw [complete, Consult.outside_map]
  exact Provider.outside_complete outside

theorem outside_converse :
    (binding.converse purpose prompt outside).2 =
      (binding.transport.postStream
        (binding.provider.call { binding.request prompt with stream := true } true) outside).2 := by
  rw [← Provider.outside_stream, converse, reported]
  dsimp only
  cases (binding.provider.stream binding.transport { binding.request prompt with stream := true }
    outside).1.outcome <;> rfl

/-- A binding is answered with the text of the answer that its provider brings. -/
theorem outcome_complete_eq_map :
    (binding.complete purpose prompt outside).1.outcome =
      (binding.provider.complete binding.transport (binding.request prompt)
        outside).1.outcome.map (·.text) := by
  rw [complete, Consult.outcome_map, reported]

/-- What a binding is answered with is what the value that came stands for. -/
theorem outcome_complete {value : Json} {completion : Completion}
    (hpost : (binding.transport.post (binding.provider.call (binding.request prompt) false)
      outside).1.outcome = .ok value)
    (hread : Chat.readAnswer value = .ok completion) :
    (binding.complete purpose prompt outside).1.outcome = .ok completion.text := by
  have hcompletion : (binding.provider.complete binding.transport (binding.request prompt)
      outside).1.outcome = .ok completion := by
    rw [Provider.complete, Consult.outcome_bind, hpost]
    simp only [hread]
    rfl
  rw [outcome_complete_eq_map, hcompletion]
  rfl

/-- Piece by piece, it is what the pieces that came make up. -/
theorem outcome_converse {chunks : List Chunk} {tokens : List String}
    (hpost : (binding.transport.postStream
      (binding.provider.call { binding.request prompt with stream := true } true)
      outside).1.outcome = .ok chunks)
    (hgather : gather (readStream chunks) = (tokens, none)) :
    (binding.converse purpose prompt outside).1.outcome = .ok (String.join tokens) := by
  simp only [converse, reported, Provider.outcome_stream hpost, hgather]

/-- A whole answer is not said aloud. -/
theorem silent_complete (h : binding.transport.Silent) :
    (binding.complete purpose prompt).Silent := by
  have hreported : (binding.reported purpose
      (binding.provider.complete binding.transport (binding.request prompt))).Silent :=
    Provider.silent_complete h
  exact hreported.map _

/-- What was said aloud are the tokens that the answer was gathered from. -/
theorem tokens_converse (h : binding.transport.Silent) {chunks : List Chunk} {tokens : List String}
    (hpost : (binding.transport.postStream
      (binding.provider.call { binding.request prompt with stream := true } true)
      outside).1.outcome = .ok chunks)
    (hgather : gather (readStream chunks) = (tokens, none)) :
    (binding.converse purpose prompt outside).1.tokens = tokens := by
  have hsilent : (binding.provider.stream binding.transport
      { binding.request prompt with stream := true } outside).1.tokens = [] :=
    Provider.silent_stream h outside
  simp only [converse, reported, Provider.outcome_stream hpost, hgather, hsilent, List.nil_append]

/-- An answer that came piece by piece is what was said aloud. -/
theorem join_tokens_converse (h : binding.transport.Silent) {text : String}
    (htext : (binding.converse purpose prompt outside).1.outcome = .ok text) :
    String.join (binding.converse purpose prompt outside).1.tokens = text := by
  have hsilent : (binding.provider.stream binding.transport
      { binding.request prompt with stream := true } outside).1.tokens = [] :=
    Provider.silent_stream h outside
  simp only [converse, reported] at htext ⊢
  cases hpieces : (binding.provider.stream binding.transport
      { binding.request prompt with stream := true } outside).1.outcome with
  | error fault => simp [hpieces] at htext
  | ok pieces =>
    simp only [hpieces, hsilent, List.nil_append] at htext ⊢
    cases hfault : (gather pieces).2 with
    | some fault => simp [hfault] at htext
    | none => simpa [hfault] using htext

end Binding

end Errand.Model
