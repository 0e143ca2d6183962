import Errand.Proofs.Consult
import Errand.Proofs.Run.Attempt

/-!
# Collaborators that behave alike

Two collaborators behave alike if they give the same outcome whenever they are asked the same in
states that a relation holds of, and it holds of the states afterwards (`Consult.Alike`). They need
not send the same tokens or report the same about their work. Nor does it matter to them who
watches: a task is planned and a run is kept in the same way whether somebody follows it or not.

The course of a run is then the same with either team, whoever watches. One inquiry of it leads to
one inquiry (`turn_alike`), and so do all of them one after another (`Drives.alike`). The relation
may be equality: then the two teams are one team which does not care who watches. It may also tell
how a state is seen in a larger one.
-/

set_option autoImplicit false

namespace Errand

variable {σ τ α β : Type} {R : σ → τ → Prop}

/-! ### Calls -/

namespace Consult

/-- Whether two calls have the same outcome in related states, and leave related states. -/
def Alike (R : σ → τ → Prop) (call : Consult σ α) (call' : Consult τ α) : Prop :=
  ∀ ⦃outside outside'⦄, R outside outside' →
    (call outside).1.outcome = (call' outside').1.outcome ∧
      R (call outside).2 (call' outside').2

namespace Alike

/-- A call behaves like itself. -/
theorem refl (call : Consult σ α) : Alike Eq call call := by
  rintro outside _ rfl
  exact ⟨rfl, rfl⟩

theorem answer (outcome : Except Fault α) :
    Alike R (Consult.answer outcome) (Consult.answer outcome) :=
  fun _ _ h ↦ ⟨rfl, h⟩

/-- One call and then another behave like the calls that they behave like, one after another. -/
theorem bind {call : Consult σ α} {call' : Consult τ α} {next : α → Consult σ β}
    {next' : α → Consult τ β} (hcall : Alike R call call')
    (hnext : ∀ a, Alike R (next a) (next' a)) : Alike R (call >>= next) (call' >>= next') := by
  intro outside outside' h
  obtain ⟨houtcome, hafter⟩ := hcall h
  rw [outcome_bind, outcome_bind, outside_bind, outside_bind, ← houtcome]
  cases (call outside).1.outcome with
  | error fault => exact ⟨rfl, hafter⟩
  | ok a => exact hnext a hafter

theorem map {call : Consult σ α} {call' : Consult τ α} (hcall : Alike R call call') (f : α → β) :
    Alike R (f <$> call) (f <$> call') :=
  hcall.bind fun a ↦ answer (.ok (f a))

end Alike

end Consult

/-! ### Teams -/

/-- Whether two operations behave alike. -/
def Operation.Alike (R : σ → τ → Prop) (operation : Operation σ) (operation' : Operation τ) :
    Prop :=
  ∀ parameters context,
    (operation.invoke parameters context).Alike R (operation'.invoke parameters context)

/-- Whether two vaults behave alike, whoever watches the runs that they keep. -/
structure Vault.Alike (R : σ → τ → Prop) (vault : Vault σ) (vault' : Vault τ) : Prop where
  save : ∀ thread run watched,
    (vault.save thread run).Alike R (vault'.save thread (run.watch watched))
  load : ∀ thread, (vault.load thread).Alike R (vault'.load thread)
  claim : ∀ thread, (vault.claim thread).Alike R (vault'.claim thread)
  release : ∀ thread, (vault.release thread).Alike R (vault'.release thread)
  delete : ∀ thread, (vault.delete thread).Alike R (vault'.delete thread)

/-- Whether two teams behave alike, whoever watches. -/
structure Team.Alike (R : σ → τ → Prop) (team : Team σ) (team' : Team τ) : Prop where
  planner : ∀ task watched,
    (team.planner task).Alike R (team'.planner { task with watched := watched })
  oracle : ∀ text, (team.oracle text).Alike R (team'.oracle text)
  solver : ∀ request, (team.solver request).Alike R (team'.solver request)
  registry : ∀ name,
    Option.Rel (Operation.Alike R) (team.registry.get? name) (team'.registry.get? name)
  vault : Option.Rel (Vault.Alike R) team.vault team'.vault
  solverInput : team.solverInput = team'.solverInput

/-- The inquiry of a run that is watched, or not. -/
def Inquiry.watch (watched : Bool) : Inquiry → Inquiry
  | .plan task => .plan { task with watched := watched }
  | inquiry => inquiry

section Team

variable {team : Team σ} {team' : Team τ} {outside : σ} {outside' : τ}

theorem Team.Alike.contains (h : team.Alike R team') (name : String) :
    team'.registry.contains name = team.registry.contains name := by
  have hname := h.registry name
  rw [Registry.contains_eq_isSome, Registry.contains_eq_isSome]
  generalize team.registry.get? name = found, team'.registry.get? name = found' at hname ⊢
  cases hname <;> rfl

/-- Teams that behave alike answer inquiries alike. -/
theorem Team.Alike.ask (h : team.Alike R team') (inquiry : Inquiry) (watched : Bool) :
    (team.ask inquiry).Alike R (team'.ask (inquiry.watch watched)) := by
  cases inquiry with
  | plan task => exact (h.planner task watched).map _
  | prompt text => exact (h.oracle text).map _
  | answer request => exact (h.solver request).map _
  | operation name parameters context =>
    have hname := h.registry name
    simp only [Team.ask, Inquiry.watch]
    generalize team.registry.get? name = found, team'.registry.get? name = found' at hname ⊢
    cases hname with
    | none => exact .answer _
    | some hoperation => exact hoperation parameters context

theorem Team.Alike.keep (h : team.Alike R team') (thread : String) (run : Run) (watched : Bool)
    (hR : R outside outside') :
    (team.keep thread run outside).1 = (team'.keep thread (run.watch watched) outside').1 ∧
      R (team.keep thread run outside).2 (team'.keep thread (run.watch watched) outside').2 := by
  have hdone : (run.watch watched).isDone = run.isDone := rfl
  have hvault := h.vault
  unfold Team.keep
  generalize team.vault = vault, team'.vault = vault' at hvault ⊢
  cases hvault with
  | none => exact ⟨rfl, hR⟩
  | some hvault =>
    rw [hdone]
    cases run.isDone with
    | true =>
      obtain ⟨houtcome, hafter⟩ := hvault.delete thread hR
      exact ⟨congrArg (·.map fun _ ↦ ()) houtcome, hafter⟩
    | false => exact hvault.save thread run watched hR

theorem Team.Alike.giveBack (h : team.Alike R team') (thread : String) (claimed : Bool)
    (hR : R outside outside') :
    R (team.giveBack thread claimed outside) (team'.giveBack thread claimed outside') := by
  have hvault := h.vault
  unfold Team.giveBack
  generalize team.vault = vault, team'.vault = vault' at hvault ⊢
  cases claimed with
  | false => exact hR
  | true =>
    cases hvault with
    | none => exact hR
    | some hvault => exact (hvault.release thread hR).2

end Team

/-! ### Runs -/

namespace Run

variable {team : Team σ} {team' : Team τ} {thread : String} {claimed : Bool}

/-- A run asks the same, whoever watches. -/
theorem inquiry_alike (h : team.Alike R team') (run : Run) (watched : Bool) :
    (run.watch watched).inquiry team' = (run.inquiry team).map (·.watch watched) := by
  obtain ⟨task, stage, plan, results, cursor, answer⟩ := run
  cases stage with
  | plan => rfl
  | done => rfl
  | solve =>
    simp only [inquiry, watch, ← h.solverInput]
    cases plan <;> rfl
  | tool =>
    let run : Run := ⟨task, .tool, plan, results, cursor, answer⟩
    have hcurrent : (run.watch watched).currentStep = run.currentStep := rfl
    simp only [inquiry, run] at hcurrent ⊢
    rw [hcurrent]
    cases currentStep ⟨task, .tool, plan, results, cursor, answer⟩ with
    | error fault => rfl
    | ok step =>
      simp only [watch, Step.inquiry, h.contains]
      split
      · rfl
      · split
        · cases Json.parse (results.resolve step.template) <;> rfl
        · rfl

/-- One transition with teams that behave alike. -/
theorem turn_alike (h : team.Alike R team') (run : Run) (watched : Bool) {outside : σ}
    {outside' : τ} (hR : R outside outside') :
    ∃ after', (run.watch watched).turn team' outside' =
        ((run.turn team outside).1, (run.turn team outside).2.1.watch watched, after') ∧
      R (run.turn team outside).2.2 after' := by
  have hinquiry' := inquiry_alike h run watched
  cases hinquiry : run.inquiry team with
  | error fault =>
    rw [hinquiry] at hinquiry'
    rw [turn_of_silent outside hinquiry, turn_of_silent outside' hinquiry']
    exact ⟨outside', rfl, hR⟩
  | ok inquiry =>
    rw [hinquiry] at hinquiry'
    obtain ⟨houtcome, hafter⟩ := h.ask inquiry watched hR
    rw [turn_of_asked outside hinquiry, turn_of_asked outside' hinquiry', ← houtcome]
    cases (team.ask inquiry outside).1.outcome with
    | error fault => exact ⟨_, rfl, hafter⟩
    | ok value =>
      simp only [settle_watch]
      cases run.settle value with
      | error fault => exact ⟨_, rfl, hafter⟩
      | ok next => exact ⟨_, rfl, hafter⟩

/-- A run takes the same course with teams that behave alike, whoever watches. -/
theorem Drives.alike (h : team.Alike R team') (watched : Bool) {run : Run} {outside after : σ}
    {outside' : τ} {outcome : Except RunFault Run}
    (hdrives : run.Drives team thread claimed outside outcome after) (hR : R outside outside') :
    ∃ after', (run.watch watched).Drives team' thread claimed outside'
        (outcome.map (·.watch watched)) after' ∧ R after after' := by
  induction hdrives generalizing outside' with
  | finished hdone => exact ⟨outside', .finished hdone, hR⟩
  | @stopped run next outside after fault hdone hturn =>
    obtain ⟨after', hturn', hafter⟩ := turn_alike h run watched hR
    rw [hturn] at hturn' hafter
    exact ⟨_, .stopped hdone hturn', h.giveBack thread claimed hafter⟩
  | @lost run next outside between after fault hdone hturn hkeep =>
    obtain ⟨between', hturn', hbetween⟩ := turn_alike h run watched hR
    rw [hturn] at hturn' hbetween
    obtain ⟨hlost, hafter⟩ := h.keep thread next watched hbetween
    rw [hkeep] at hlost hafter
    exact ⟨_, .lost hdone hturn' (Prod.ext hlost.symm rfl), h.giveBack thread claimed hafter⟩
  | @onward run next outside between kept after outcome hdone hturn hkeep _ ih =>
    obtain ⟨between', hturn', hbetween⟩ := turn_alike h run watched hR
    rw [hturn] at hturn' hbetween
    obtain ⟨hkept, hafter⟩ := h.keep thread next watched hbetween
    rw [hkeep] at hkept hafter
    obtain ⟨last, hrest, hlast⟩ := ih hafter
    exact ⟨last, .onward hdone hturn' (Prod.ext hkept.symm rfl) hrest, hlast⟩

end Run

end Errand
