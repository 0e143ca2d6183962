import Errand.Proofs.Messaging.Growing
import Errand.Proofs.Run.Attempt

/-!
# Messages that a run sends

The messages of a team are reached by the messaging operations and by nobody else in it
(`Team.SendsIn`). A transition sends what its inquiry sends (`turn_sends`), which is one message if
the inquiry asked for that and succeeded, and a run that is driven sends what its transitions send,
one after another (`Drives.sends`).
-/

set_option autoImplicit false

namespace Errand

open Messaging (Household Message Delivery)

variable {σ α : Type}

/-! ### Steps that send messages -/

namespace Consultation

/-- Whether an inquiry was to send a message, and succeeded. -/
def hasSent (call : Consultation) : Bool :=
  match call.inquiry, call.outcome with
  | .operation name _ _, .ok _ => name = "SendMessage"
  | _, _ => false

theorem hasSent_of_ne {name : String} (h : name ≠ "SendMessage") (parameters : Json)
    (context : Operation.Context) (outcome : Except Fault Json) :
    hasSent ⟨.operation name parameters context, outcome⟩ = false := by
  cases outcome with
  | error fault => rfl
  | ok value => exact decide_eq_false h

/-- Whether a message in the name of an actor is what an inquiry was answered with. -/
def Sends (actor : String) (call : Consultation) (message : Message) : Prop :=
  call.outcome = .ok message.toJson ∧ message.sender = actor

/-- Whether messages are those that inquiries have sent, in order. -/
def AllSend (actor : String) (calls : List Consultation) (sent : List Message) : Prop :=
  List.Forall₂ (Sends actor) (calls.filter hasSent) sent

theorem AllSend.append {actor : String} {calls others : List Consultation}
    {sent more : List Message} (h : AllSend actor calls sent) (h' : AllSend actor others more) :
    AllSend actor (calls ++ others) (sent ++ more) := by
  rw [AllSend, List.filter_append]
  exact List.rel_append h h'

end Consultation

/-- Whether a vault leaves messages alone. -/
structure Vault.LeavesAlone (vault : Vault σ) (house : Household σ) : Prop where
  save : ∀ thread run outside, house.Beside outside (vault.save thread run outside).2
  claim : ∀ thread outside, house.Beside outside (vault.claim thread outside).2
  release : ∀ thread outside, house.Beside outside (vault.release thread outside).2
  delete : ∀ thread outside, house.Beside outside (vault.delete thread outside).2

/-- Whether the steps of a team have the messaging operations, and nobody else in it reaches the
messages. -/
structure Team.SendsIn (team : Team σ) (house : Household σ) (assistant : String) : Prop where
  lawful : house.Lawful
  operations : team.registry.operations = Messaging.operations (.ofStore house) assistant
  planner : ∀ task outside, house.Beside outside (team.planner task outside).2
  oracle : ∀ text outside, house.Beside outside (team.oracle text outside).2
  solver : ∀ request outside, house.Beside outside (team.solver request outside).2
  vault : ∀ vault ∈ team.vault, vault.LeavesAlone house

section Team

variable {team : Team σ} {house : Household σ} {assistant thread : String} {outside : σ}

theorem Team.SendsIn.keep (hteam : team.SendsIn house assistant) (thread : String) (run : Run)
    (outside : σ) : house.Beside outside (team.keep thread run outside).2 := by
  unfold Team.keep
  cases hvault : team.vault with
  | none => exact .refl house outside
  | some vault =>
    dsimp only
    split
    · exact (hteam.vault vault hvault).delete thread outside
    · exact (hteam.vault vault hvault).save thread run outside

theorem Team.SendsIn.giveBack (hteam : team.SendsIn house assistant) (thread : String)
    (claimed : Bool) (outside : σ) :
    house.Beside outside (team.giveBack thread claimed outside) := by
  unfold Team.giveBack
  split
  · next vault hvault => exact (hteam.vault vault hvault).release thread outside
  · exact .refl house outside

theorem Team.SendsIn.claim (hteam : team.SendsIn house assistant) (thread : String)
    (scene : Scene σ) : house.Beside scene.outside (Run.claim team thread scene).2.outside := by
  unfold Run.claim
  cases hvault : team.vault with
  | none => exact .refl house scene.outside
  | some vault => exact (hteam.vault vault hvault).claim thread scene.outside

/-- An operation that is invoked in the name of an actor sends a message in that name, or none. -/
theorem Team.SendsIn.operation_sends (hteam : team.SendsIn house assistant)
    (htidy : house.Tidy outside) (name : String) (parameters : Json)
    (context : Operation.Context) :
    ∃ sent,
      house.Grows outside sent (team.ask (.operation name parameters context) outside).2 ∧
      Consultation.AllSend context.actor
        [⟨.operation name parameters context,
          (team.ask (.operation name parameters context) outside).1.outcome⟩] sent := by
  simp only [Team.ask]
  cases hget : team.registry.get? name with
  | none => exact ⟨[], .refl htidy, .nil⟩
  | some operation =>
    have hmem := List.mem_of_find?_eq_some hget
    have hname : operation.name = name := by simpa using List.find?_some hget
    rw [hteam.operations] at hmem
    rcases (Messaging.closed_quiet hteam.lawful).operations hmem with rfl | ⟨hother, hquiet⟩
    · obtain ⟨sent, hgrows, hdelivery⟩ :=
        Messaging.delivers_sendMessage hteam.lawful parameters context outside htidy
      refine ⟨sent, hgrows, ?_⟩
      obtain rfl : "SendMessage" = name := hname
      generalize ((Messaging.sendMessage _).invoke parameters context outside).1.outcome =
        outcome at hdelivery ⊢
      cases hdelivery with
      | failed fault => exact .nil
      | sent message hsender =>
        have hsent : Consultation.hasSent ⟨.operation "SendMessage" parameters context,
          .ok message.toJson⟩ := by simp [Consultation.hasSent]
        rw [Consultation.AllSend, List.filter_cons_of_pos hsent]
        exact .cons ⟨rfl, hsender⟩ .nil
    · refine ⟨[], hquiet parameters context outside htidy, ?_⟩
      rw [Consultation.AllSend, List.filter_cons_of_neg]
      · exact .nil
      · rw [Consultation.hasSent_of_ne (hname ▸ hother)]
        exact Bool.false_ne_true

/-- What an answer to an inquiry has to do with messages. -/
theorem Team.SendsIn.ask_sends (hteam : team.SendsIn house assistant) (htidy : house.Tidy outside)
    {actor : String} {inquiry : Inquiry}
    (hactor : ∀ name parameters context, inquiry = .operation name parameters context →
      context.actor = actor) :
    ∃ sent, house.Grows outside sent (team.ask inquiry outside).2 ∧
      Consultation.AllSend actor [⟨inquiry, (team.ask inquiry outside).1.outcome⟩] sent := by
  cases inquiry with
  | operation name parameters context =>
    rw [← hactor name parameters context rfl]
    exact hteam.operation_sends htidy name parameters context
  | plan task =>
    refine ⟨[], ?_, .nil⟩
    rw [Team.ask, Consult.outside_map]
    exact (hteam.planner task outside).grows htidy
  | prompt text =>
    refine ⟨[], ?_, .nil⟩
    rw [Team.ask, Consult.outside_map]
    exact (hteam.oracle text outside).grows htidy
  | answer request =>
    refine ⟨[], ?_, .nil⟩
    rw [Team.ask, Consult.outside_map]
    exact (hteam.solver request outside).grows htidy

end Team

namespace Run

variable {team : Team σ} {house : Household σ} {assistant thread : String} {run next : Run}
  {outside after : σ}

/-- A run asks for operations in the name of its actor. -/
theorem actor_of_inquiry {name : String} {parameters : Json} {context : Operation.Context}
    (h : run.inquiry team = .ok (.operation name parameters context)) :
    context.actor = run.task.actor := by
  cases asks_of_inquiry h with
  | step step _ _ hask =>
    unfold Step.inquiry at hask
    split at hask
    · cases hask
    · split at hask
      · split at hask
        · cases hask
        · cases hask
          rfl
      · cases hask

/-- A transition sends what its inquiry sends. -/
theorem turn_sends (hteam : team.SendsIn house assistant) (htidy : house.Tidy outside)
    {fault : Option RunFault} (hturn : run.turn team outside = (fault, next, after)) :
    ∃ sent, house.Grows outside sent after ∧
      Consultation.AllSend run.task.actor (run.consultations team outside) sent := by
  cases hinquiry : run.inquiry team with
  | error refused =>
    rw [turn_of_silent outside hinquiry] at hturn
    cases hturn
    simp only [consultations, hinquiry]
    exact ⟨[], .refl htidy, .nil⟩
  | ok inquiry =>
    have hafter : (team.ask inquiry outside).2 = after := by
      rw [turn_of_asked outside hinquiry] at hturn
      split at hturn
      · cases hturn
        rfl
      · split at hturn <;> cases hturn <;> rfl
    simp only [consultations, hinquiry]
    rw [← hafter]
    refine hteam.ask_sends htidy fun name parameters context hoperation ↦ ?_
    exact actor_of_inquiry (hoperation ▸ hinquiry)

/-- A run that is driven sends what its transitions send, one after another. -/
theorem Drives.sends {claimed : Bool} {outcome : Except RunFault Run}
    (hteam : team.SendsIn house assistant)
    (h : run.Drives team thread claimed outside outcome after) (htidy : house.Tidy outside) :
    ∃ calls sent,
      (∀ notes, run.Drives team.noted thread claimed (outside, notes) outcome
        (after, notes ++ calls)) ∧
      house.Grows outside sent after ∧ Consultation.AllSend run.task.actor calls sent := by
  induction h with
  | finished hdone =>
    refine ⟨[], [], fun notes ↦ ?_, .refl htidy, .nil⟩
    rw [List.append_nil]
    exact .finished hdone
  | @stopped run next outside between fault hdone hturn =>
    obtain ⟨sent, hgrows, hsends⟩ := turn_sends hteam htidy hturn
    have hback := (hteam.giveBack thread claimed between).grows hgrows.tidy
    refine ⟨run.consultations team outside, sent, noted_stopped hdone hturn, ?_, hsends⟩
    rw [← sent.append_nil]
    exact hgrows.trans hback
  | @lost run next outside between lost fault hdone hturn hkeep =>
    obtain ⟨sent, hgrows, hsends⟩ := turn_sends hteam htidy hturn
    have hkept := (hteam.keep thread next between).grows hgrows.tidy
    rw [hkeep] at hkept
    have hback := (hteam.giveBack thread claimed lost).grows hkept.tidy
    refine ⟨run.consultations team outside, sent, noted_lost hdone hturn hkeep, ?_, hsends⟩
    have hall := (hgrows.trans hkept).trans hback
    rwa [List.append_nil, List.append_nil] at hall
  | @onward run next outside between kept after outcome hdone hturn hkeep _ ih =>
    obtain ⟨sent, hgrows, hsends⟩ := turn_sends hteam htidy hturn
    have hkept := (hteam.keep thread next between).grows hgrows.tidy
    rw [hkeep] at hkept
    obtain ⟨calls, more, hnoted, hrest, hmore⟩ := ih hkept.tidy
    refine ⟨run.consultations team outside ++ calls, sent ++ more, fun notes ↦ ?_, ?_, ?_⟩
    · refine noted_onward hdone hturn hkeep ?_
      rw [← List.append_assoc]
      exact hnoted _
    · have hall := hgrows.trans (hkept.trans hrest)
      rwa [List.nil_append] at hall
    · rw [task_of_turn hturn] at hmore
      exact hsends.append hmore

end Run

end Errand
