import Errand.Consult

/-!
# Calls one after another

What one call and then another come to: their outcome, the tokens that arrive and the samples that
are reported meanwhile, and the state of everything outside after them. A `Silent` call sends no
tokens.
-/

set_option autoImplicit false

namespace Errand.Consult

variable {σ α β : Type}

section Bind

variable (call : Consult σ α) (next : α → Consult σ β) (outside : σ)

theorem outcome_bind :
    ((call >>= next) outside).1.outcome =
      match (call outside).1.outcome with
      | .error fault => .error fault
      | .ok a => (next a (call outside).2).1.outcome := by
  change (andThen call next outside).1.outcome = _
  rcases hcall : call outside with ⟨⟨outcome, tokens, samples⟩, after⟩
  cases outcome <;> simp [andThen, hcall]

theorem outside_bind :
    ((call >>= next) outside).2 =
      match (call outside).1.outcome with
      | .error _ => (call outside).2
      | .ok a => (next a (call outside).2).2 := by
  change (andThen call next outside).2 = _
  rcases hcall : call outside with ⟨⟨outcome, tokens, samples⟩, after⟩
  cases outcome <;> simp [andThen, hcall]

theorem tokens_bind :
    ((call >>= next) outside).1.tokens = (call outside).1.tokens ++
      match (call outside).1.outcome with
      | .error _ => []
      | .ok a => (next a (call outside).2).1.tokens := by
  change (andThen call next outside).1.tokens = _
  rcases hcall : call outside with ⟨⟨outcome, tokens, samples⟩, after⟩
  cases outcome <;> simp [andThen, hcall]

theorem samples_bind :
    ((call >>= next) outside).1.samples = (call outside).1.samples ++
      match (call outside).1.outcome with
      | .error _ => []
      | .ok a => (next a (call outside).2).1.samples := by
  change (andThen call next outside).1.samples = _
  rcases hcall : call outside with ⟨⟨outcome, tokens, samples⟩, after⟩
  cases outcome <;> simp [andThen, hcall]

end Bind

/-- A call that only gives a value is followed by the next one. -/
theorem bind_of_ok {call : Consult σ α} {next : α → Consult σ β} {outside after : σ} {a : α}
    (h : call outside = ({ outcome := .ok a }, after)) :
    (call >>= next) outside = next a after := by
  change andThen call next outside = _
  simp [andThen, h]

/-! ### Calls that send no tokens -/

/-- Whether a call sends no tokens, in any state of everything outside. -/
def Silent (call : Consult σ α) : Prop :=
  ∀ outside, (call outside).1.tokens = []

theorem silent_answer (outcome : Except Fault α) : Silent (answer (σ := σ) outcome) :=
  fun _ ↦ rfl

theorem silent_modify (change : σ → Except Fault α × σ) : Silent (modify change) :=
  fun _ ↦ rfl

theorem Silent.bind {call : Consult σ α} {next : α → Consult σ β} (hcall : Silent call)
    (hnext : ∀ a, Silent (next a)) : Silent (call >>= next) := by
  intro outside
  rw [tokens_bind, hcall outside]
  cases (call outside).1.outcome with
  | error fault => rfl
  | ok a => exact hnext a _

theorem Silent.map {call : Consult σ α} (h : Silent call) (f : α → β) : Silent (f <$> call) :=
  h.bind fun a ↦ silent_answer (.ok (f a))

end Errand.Consult
