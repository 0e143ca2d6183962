import Errand.Proofs.Messaging.Meeting

/-!
# Clerks who record at the same time

Several exchanges may be recorded at the same time. Each is in the hands of a `Clerk`, who makes the
one call of the repository that is due: looking for the conversation, opening one, or writing the
message. Left alone, a clerk does what the recorder does (`exists_alone_record`). In an `Office` the
clerks act as a schedule says, so that every interleaving of their calls is the play of some
schedule.

Looking and opening are two calls. A clerk who has looked in vain opens a conversation, whatever
others have opened since. So an actor and the assistant come to have as many conversations as clerks
were waiting to open one at the same moment (`Office.play_meetings`); there is one at most if there
is never more than one such clerk.
-/

set_option autoImplicit false

namespace Errand.Messaging

open Service (Memory growingId eq_of_growingId)

variable {σ : Type}

/-! ### Notes -/

/-- What is to be recorded. -/
inductive Note
  /-- A task of an actor. -/
  | task (actor text : String)
  /-- The answer to an actor. -/
  | answer (actor text : String)

/-- What comes of recording. -/
inductive Receipt
  /-- The conversation in which a task was recorded. -/
  | task (place : Conversation)
  /-- The message of an answer, unless it was blank. -/
  | answer (message : Option Message)

namespace Note

/-- The actor. -/
def actor : Note → String
  | .task actor _ => actor
  | .answer actor _ => actor

/-- Whether a note is a blank answer. -/
def isBlank : Note → Bool
  | .task _ _ => false
  | .answer _ text => Text.isAllBlank text

/-- The message that is sent for a note. -/
def draft (assistant : String) (place : Conversation) : Note → Draft
  | .task actor text =>
    { conversation := place.id, sender := actor, receiver := assistant, content := text }
  | .answer actor text =>
    { conversation := place.id, sender := assistant, receiver := actor, content := text }

/-- What comes of a note that was recorded as a message. -/
def receipt (place : Conversation) (message : Message) : Note → Receipt
  | .task _ _ => .task place
  | .answer _ _ => .answer (some message)

/-- Sends the message of a note in a conversation. -/
def send (recorder : Recorder σ) (place : Conversation) (note : Note) : Consult σ Receipt := do
  let message ← recorder.repository.createMessage (note.draft recorder.assistant place)
  return note.receipt place message

/-- Sends the message of a note in the conversation of its actor with the assistant. -/
def write (recorder : Recorder σ) (note : Note) : Consult σ Receipt := do
  let place ← recorder.conversationWith note.actor
  note.send recorder place

/-- Records a note. -/
def record (recorder : Recorder σ) : Note → Consult σ Receipt
  | .task actor text => Receipt.task <$> recorder.recordTask actor text
  | .answer actor text => Receipt.answer <$> recorder.recordAnswer actor text

/-- To everything outside, sending the message of a note is one call of the repository. -/
theorem outside_send (recorder : Recorder σ) (place : Conversation) (note : Note) (outside : σ) :
    (note.send recorder place outside).2 =
      (recorder.repository.createMessage (note.draft recorder.assistant place) outside).2 := by
  rw [send, Consult.outside_bind]
  split <;> rfl

/-- A note that is not a blank answer is recorded by writing its message. -/
theorem record_of_not_blank (recorder : Recorder σ) {note : Note} (h : note.isBlank = false)
    (outside : σ) :
    (note.record recorder outside).1.outcome = (note.write recorder outside).1.outcome ∧
      (note.record recorder outside).2 = (note.write recorder outside).2 := by
  cases note with
  | task actor text =>
    simp only [record, write, send, Recorder.recordTask, Consult.outcome_map, Consult.outside_map,
      Consult.outcome_bind, Consult.outside_bind, Note.actor, draft, receipt]
    cases (recorder.conversationWith actor outside).1.outcome with
    | error fault => exact ⟨rfl, rfl⟩
    | ok place =>
      dsimp only
      split <;> exact ⟨rfl, rfl⟩
  | answer actor text =>
    rw [isBlank] at h
    simp only [record, write, send, Recorder.recordAnswer, h, Bool.false_eq_true, if_false,
      Consult.outcome_map, Consult.outside_map, Consult.outcome_bind, Consult.outside_bind,
      Note.actor, draft, receipt]
    cases (recorder.conversationWith actor outside).1.outcome with
    | error fault => exact ⟨rfl, rfl⟩
    | ok place =>
      dsimp only
      split <;> exact ⟨rfl, rfl⟩

/-- Nothing is done about a blank answer. -/
theorem record_of_blank (recorder : Recorder σ) {note : Note} (h : note.isBlank) (outside : σ) :
    (note.record recorder outside).1.outcome = .ok (.answer none) ∧
      (note.record recorder outside).2 = outside := by
  cases note with
  | task actor text => cases h
  | answer actor text =>
    rw [isBlank] at h
    simp only [record, Recorder.recordAnswer, h, if_true, Consult.outcome_map, Consult.outside_map]
    exact ⟨rfl, rfl⟩

end Note

/-! ### Clerks -/

/-- Somebody who has to look for the conversation of a note, or to open one, or to write into it,
or has come to an end. -/
inductive Clerk
  | looking (note : Note)
  | opening (note : Note)
  | writing (note : Note) (place : Conversation)
  | ended (outcome : Except Fault Receipt)

namespace Clerk

/-- A clerk who has been given a note. A blank answer leaves nothing to do. -/
def begin (note : Note) : Clerk :=
  if note.isBlank then .ended (.ok (.answer none)) else .looking note

/-- What becomes of a clerk who has looked. -/
def looked (note : Note) : Except Fault (Option Conversation) → Clerk
  | .error fault => .ended (.error fault)
  | .ok none => .opening note
  | .ok (some place) => .writing note place

/-- What becomes of a clerk who has tried to open a conversation. -/
def opened (note : Note) : Except Fault Conversation → Clerk
  | .error fault => .ended (.error fault)
  | .ok place => .writing note place

/-- Makes the call that is due. -/
def act (recorder : Recorder σ) (clerk : Clerk) (outside : σ) : Clerk × σ :=
  match clerk with
  | .looking note =>
    let (reply, after) :=
      recorder.repository.findConversationOf [recorder.assistant, note.actor] outside
    (looked note reply.outcome, after)
  | .opening note =>
    let (reply, after) :=
      recorder.repository.createConversation [recorder.assistant, note.actor] outside
    (opened note reply.outcome, after)
  | .writing note place =>
    let (reply, after) := note.send recorder place outside
    (.ended reply.outcome, after)
  | .ended outcome => (.ended outcome, outside)

/-- What a clerk comes to by acts between which nobody else acts. -/
def alone (recorder : Recorder σ) (acts : Nat) (clerk : Clerk) (outside : σ) : Clerk × σ :=
  match acts with
  | 0 => (clerk, outside)
  | acts + 1 =>
    let (next, after) := clerk.act recorder outside
    alone recorder acts next after

/-- A clerk who looks and is left alone writes the message of the note. -/
theorem exists_alone_write (recorder : Recorder σ) (note : Note) (outside : σ) :
    ∃ acts, alone recorder acts (.looking note) outside =
      (.ended (note.write recorder outside).1.outcome, (note.write recorder outside).2) := by
  rw [Note.write, Consult.outcome_bind, Consult.outside_bind, Recorder.conversationWith,
    Consult.outcome_bind, Consult.outside_bind]
  rcases hfind : recorder.repository.findConversationOf [recorder.assistant, note.actor] outside
    with ⟨⟨fault | _ | place, _, _⟩, between⟩
  · exact ⟨1, by simp only [alone, act, looked, hfind]⟩
  · rcases hopen : recorder.repository.createConversation [recorder.assistant, note.actor] between
      with ⟨⟨fault | place, _, _⟩, after⟩
    · exact ⟨2, by simp only [alone, act, looked, opened, hfind, hopen]⟩
    · refine ⟨3, ?_⟩
      simp only [alone, act, looked, opened, hfind, hopen]
  · refine ⟨2, ?_⟩
    simp only [alone, act, looked, hfind]
    rfl

/-- A clerk who is left alone records the note. -/
theorem exists_alone_record (recorder : Recorder σ) (note : Note) (outside : σ) :
    ∃ acts, alone recorder acts (begin note) outside =
      (.ended (note.record recorder outside).1.outcome, (note.record recorder outside).2) := by
  cases hblank : note.isBlank with
  | true =>
    obtain ⟨houtcome, houtside⟩ := note.record_of_blank recorder hblank outside
    exact ⟨0, by rw [houtcome, houtside, begin, if_pos hblank, alone]⟩
  | false =>
    obtain ⟨houtcome, houtside⟩ := note.record_of_not_blank recorder hblank outside
    rw [houtcome, houtside, begin, hblank, if_neg Bool.false_ne_true]
    exact exists_alone_write recorder note outside

/-- All that an act of a clerk can do in a household. -/
inductive Move (house : Household σ) (assistant : String) : Clerk → σ → Clerk → σ → Prop
  | found {note : Note} {place : Conversation} {outside : σ}
      (h : (house.store outside).findConversationOf [assistant, note.actor] = some place) :
      Move house assistant (.looking note) outside (.writing note place) outside
  | missed {note : Note} {outside : σ}
      (h : (house.store outside).findConversationOf [assistant, note.actor] = none) :
      Move house assistant (.looking note) outside (.opening note) outside
  | opened {note : Note} {place : Conversation} {before after : σ}
      (husers : place.participants = [assistant, note.actor])
      (hadds : house.Adds before [place] [] after) :
      Move house assistant (.opening note) before (.writing note place) after
  | sent {note : Note} {place : Conversation} {before after : σ} {sent : List Message}
      (outcome : Except Fault Receipt) (hadds : house.Adds before [] sent after) :
      Move house assistant (.writing note place) before (.ended outcome) after
  | rested (outcome : Except Fault Receipt) (outside : σ) :
      Move house assistant (.ended outcome) outside (.ended outcome) outside

/-- What sending the message of a note adds to a household. -/
theorem adds_send {house : Household σ} (hlawful : house.Lawful) {outside : σ}
    (hneat : house.Neat outside) (assistant : String) (place : Conversation) (note : Note) :
    ∃ sent, house.Adds outside [] sent
      (note.send ⟨.ofStore house, assistant⟩ place outside).2 := by
  rw [note.outside_send]
  by_cases hplace :
    ((house.store outside).findConversation (note.draft assistant place).conversation).isSome
  · obtain ⟨message, after, hcall, -, -, hadds⟩ := hneat.createMessage hlawful _ hplace
    rw [hcall]
    exact ⟨[message], hadds⟩
  · have hcreate := createMessage_grows hlawful hneat.toTidy (note.draft assistant place)
    rw [if_neg hplace] at hcreate
    obtain ⟨fault, hcall⟩ := hcreate
    rw [hcall]
    exact ⟨[], .refl hneat⟩

/-- Every act of a clerk is such a move. -/
theorem move_act {house : Household σ} (hlawful : house.Lawful) {outside : σ}
    (hneat : house.Neat outside) (assistant : String) (clerk : Clerk) :
    Move house assistant clerk outside (clerk.act ⟨.ofStore house, assistant⟩ outside).1
      (clerk.act ⟨.ofStore house, assistant⟩ outside).2 := by
  cases clerk with
  | looking note =>
    simp only [act, findConversationOf_ofStore]
    cases hfind : (house.store outside).findConversationOf [assistant, note.actor] with
    | none => exact .missed hfind
    | some place => exact .found hfind
  | opening note =>
    obtain ⟨place, after, hcall, husers, hadds⟩ :=
      hneat.createConversation hlawful (List.cons_ne_nil assistant [note.actor])
    simp only [act, hcall]
    exact .opened husers hadds
  | writing note place =>
    obtain ⟨sent, hadds⟩ := adds_send hlawful hneat assistant place note
    exact .sent _ hadds
  | ended outcome => exact .rested outcome outside

/-- Whether a clerk is about to open a conversation with an actor. -/
def opens (actor : String) : Clerk → Bool
  | .opening note => note.actor == actor
  | _ => false

end Clerk

/-- How many conversations there are of just two users. -/
def Store.meetings (store : Store) (a b : String) : Nat :=
  store.conversations.countP fun entry ↦ entry.2.IsBetween a b

theorem Store.meetings_eq_zero {store : Store} {a b : String} :
    store.meetings a b = 0 ↔ ∀ entry ∈ store.conversations, ¬ entry.2.IsBetween a b := by
  simp [meetings, List.countP_eq_zero]

theorem Conversation.isBetween_pair_iff {conversation : Conversation} {a b c : String}
    (h : conversation.participants = [a, b]) : conversation.IsBetween a c ↔ b = c := by
  constructor
  · intro hbetween
    have hb := (hbetween b).mp (by simp [h])
    have hc := (hbetween c).mpr (.inr rfl)
    rw [h] at hc
    simp only [List.mem_cons, List.not_mem_nil, or_false] at hc
    rcases hb with rfl | rfl
    · exact (hc.elim Eq.symm Eq.symm)
    · rfl
  · rintro rfl
    exact isBetween_of_participants h

section Move

variable {house : Household σ} {assistant : String} {clerk next : Clerk} {before after : σ}

theorem Household.Adds.meetings {opened : List Conversation} {sent : List Message}
    (h : house.Adds before opened sent after) (a b : String) :
    (house.store after).meetings a b =
      (house.store before).meetings a b + opened.countP (·.IsBetween a b) := by
  rw [Store.meetings, h.conversations, List.countP_append, List.countP_map]
  rfl

theorem Clerk.Move.neat (h : Move house assistant clerk before next after)
    (hneat : house.Neat before) : house.Neat after := by
  cases h with
  | opened _ hadds => exact hadds.neat
  | sent _ hadds => exact hadds.neat
  | _ => exact hneat

/-- An act leaves the number of conversations of an actor with the assistant, together with the one
that the clerk may be about to open, as it was, unless there is none and the clerk becomes such. -/
theorem Clerk.Move.meetings (h : Move house assistant clerk before next after) (actor : String) :
    (house.store after).meetings assistant actor + (if next.opens actor then 1 else 0) =
        (house.store before).meetings assistant actor + (if clerk.opens actor then 1 else 0) ∨
      (house.store before).meetings assistant actor = 0 ∧
        (house.store after).meetings assistant actor = 0 ∧ clerk.opens actor = false := by
  cases h with
  | found h => exact .inl rfl
  | @missed note _ h =>
    by_cases hactor : note.actor = actor
    · -- Nobody has opened a conversation of the two before this clerk looked.
      subst hactor
      have hnone := Store.meetings_eq_zero.mpr (Store.not_isBetween_of_missed h)
      exact .inr ⟨hnone, hnone, rfl⟩
    · exact .inl (by simp [opens, hactor])
  | @opened note place _ _ husers hadds =>
    refine .inl ?_
    rw [hadds.meetings]
    simp [opens, List.countP_cons, Conversation.isBetween_pair_iff husers]
  | sent outcome hadds => exact .inl (by rw [hadds.meetings]; rfl)
  | rested outcome outside => exact .inl rfl

end Move

/-! ### Offices -/

/-- Clerks who work for the same assistant. -/
structure Office (σ : Type) where
  /-- The clerks. -/
  clerks : List Clerk
  /-- Everything outside. -/
  outside : σ

namespace Office

/-- An office in which every clerk has been given a note. -/
def begin (notes : List Note) (outside : σ) : Office σ where
  clerks := notes.map Clerk.begin
  outside := outside

/-- One of the clerks acts. -/
def act (recorder : Recorder σ) (office : Office σ) (who : Nat) : Office σ :=
  match office.clerks[who]? with
  | none => office
  | some clerk =>
    let (next, after) := clerk.act recorder office.outside
    { clerks := office.clerks.set who next, outside := after }

/-- The clerks act one after another as a schedule says. -/
def play (recorder : Recorder σ) (schedule : List Nat) (office : Office σ) : Office σ :=
  schedule.foldl (act recorder) office

/-- How many clerks are about to open a conversation with an actor. -/
def openings (actor : String) (office : Office σ) : Nat :=
  office.clerks.countP (Clerk.opens actor)

/-- How many conversations an actor and the assistant have, together with those that are about to be
opened. -/
def expected (house : Household σ) (assistant actor : String) (office : Office σ) : Nat :=
  (house.store office.outside).meetings assistant actor + office.openings actor

variable {house : Household σ} {assistant : String}

theorem play_concat (recorder : Recorder σ) (schedule : List Nat) (who : Nat)
    (office : Office σ) :
    office.play recorder (schedule ++ [who]) =
      (office.play recorder schedule).act recorder who := by
  simp [play]

/-- What an act does in an office. -/
theorem act_move (hlawful : house.Lawful) (assistant : String) {office : Office σ}
    (hneat : house.Neat office.outside) {who : Nat} {clerk : Clerk}
    (hwho : office.clerks[who]? = some clerk) :
    ∃ next after, office.act ⟨.ofStore house, assistant⟩ who =
        ⟨office.clerks.set who next, after⟩ ∧
      clerk.Move house assistant office.outside next after := by
  refine ⟨_, _, ?_, Clerk.move_act hlawful hneat assistant clerk⟩
  simp only [act, hwho]

theorem openings_set {office : Office σ} {who : Nat} {clerk : Clerk}
    (hwho : office.clerks[who]? = some clerk) (next : Clerk) (after : σ) (actor : String) :
    (⟨office.clerks.set who next, after⟩ : Office σ).openings actor +
        (if clerk.opens actor then 1 else 0) =
      office.openings actor + (if next.opens actor then 1 else 0) := by
  obtain ⟨hlt, rfl⟩ := List.getElem?_eq_some_iff.mp hwho
  have hle := List.boole_getElem_le_countP (p := Clerk.opens actor) hlt
  rw [openings, openings, List.countP_set hlt]
  omega

/-- An act leaves what is expected as it was, unless there is no conversation yet; it may then grow.
-/
theorem act_expected (hlawful : house.Lawful) (assistant : String) {office : Office σ}
    (hneat : house.Neat office.outside) (who : Nat) (actor : String) :
    let next := office.act ⟨.ofStore house, assistant⟩ who
    house.Neat next.outside ∧
      office.expected house assistant actor ≤ next.expected house assistant actor ∧
      (next.expected house assistant actor = office.expected house assistant actor ∨
        (house.store next.outside).meetings assistant actor = 0) := by
  intro next
  cases hwho : office.clerks[who]? with
  | none =>
    have hnext : next = office := by simp only [next, act, hwho]
    rw [hnext]
    exact ⟨hneat, le_rfl, .inl rfl⟩
  | some clerk =>
    obtain ⟨clerk', after, hact, hmove⟩ := act_move hlawful assistant hneat hwho
    have hopenings := openings_set hwho clerk' after actor
    have hnext : next = ⟨office.clerks.set who clerk', after⟩ := hact
    rw [hnext]
    refine ⟨hmove.neat hneat, ?_⟩
    rcases hmove.meetings actor with hkept | ⟨hbefore, hafter, hclerk⟩
    · simp only [expected]
      omega
    · rw [hclerk, if_neg Bool.false_ne_true] at hopenings
      refine ⟨?_, .inr hafter⟩
      rw [expected, expected, hbefore, hafter]
      omega

/-- The numbers of clerks who are about to open a conversation with an actor, at the moments of a
play. -/
def openingsDuring (recorder : Recorder σ) (schedule : List Nat) (actor : String)
    (office : Office σ) : Set Nat :=
  {number | ∃ front, front <+: schedule ∧ (office.play recorder front).openings actor = number}

/-- Where there was no conversation at first, as many are expected after a play as were about to be
opened at one moment of it, when most were. -/
theorem play_expected (hlawful : house.Lawful) {assistant : String} (office : Office σ)
    (hneat : house.Neat office.outside) {actor : String}
    (hnone : (house.store office.outside).meetings assistant actor = 0) (schedule : List Nat) :
    house.Neat (office.play ⟨.ofStore house, assistant⟩ schedule).outside ∧
      IsGreatest (office.openingsDuring ⟨.ofStore house, assistant⟩ schedule actor)
        ((office.play ⟨.ofStore house, assistant⟩ schedule).expected house assistant actor) := by
  -- From the end of the schedule: one more act leaves what is expected as it was, or there is still
  -- no conversation, and what is expected is what is about to be opened now.
  induction schedule using List.reverseRecOn with
  | nil =>
    refine ⟨hneat, ⟨[], List.prefix_rfl, ?_⟩, ?_⟩
    · simp [play, expected, hnone]
    · rintro number ⟨front, hfront, rfl⟩
      rw [List.prefix_nil.mp hfront]
      exact Nat.le_add_left _ _
  | append_singleton schedule who ih =>
    obtain ⟨hneat', ⟨greatest, hgreatest, heq⟩, hbound⟩ := ih
    obtain ⟨hafter, hle, hgrown⟩ := act_expected hlawful assistant hneat' who actor
    rw [← play_concat] at hafter hle hgrown
    refine ⟨hafter, ?_, ?_⟩
    · rcases hgrown with hsame | hnone'
      · exact ⟨greatest, hgreatest.trans (List.prefix_append _ _), heq.trans hsame.symm⟩
      · refine ⟨_, List.prefix_rfl, ?_⟩
        rw [expected, hnone', Nat.zero_add]
    · rintro number ⟨front, hfront, rfl⟩
      rcases List.prefix_concat_iff.mp hfront with rfl | hfront
      · exact Nat.le_add_left _ _
      · exact (hbound ⟨front, hfront, rfl⟩).trans hle

/-- All conversations that are expected are opened if the clerks who are about to do so act. -/
theorem exists_play_meetings (hlawful : house.Lawful) (assistant : String) (office : Office σ)
    (hneat : house.Neat office.outside) (actor : String) :
    ∃ rest, (house.store (office.play ⟨.ofStore house, assistant⟩ rest).outside).meetings assistant
      actor = office.expected house assistant actor := by
  -- On the number of clerks who are about to open one: each of them does so by one act.
  induction hopenings : office.openings actor generalizing office with
  | zero => exact ⟨[], by rw [expected, hopenings]; rfl⟩
  | succ openings ih =>
    obtain ⟨clerk, hclerk, hopens⟩ :=
      List.countP_pos_iff.mp (hopenings ▸ Nat.succ_pos openings : 0 < office.openings actor)
    obtain ⟨who, hwho⟩ := List.mem_iff_getElem?.mp hclerk
    obtain ⟨next, after, hact, hmove⟩ := act_move hlawful assistant hneat hwho
    have hset := openings_set hwho next after actor
    have hdone : next.opens actor = false := by
      cases hmove with
      | opened _ _ => rfl
      | _ => cases hopens
    rw [hopens, hdone, hopenings, if_pos rfl, if_neg Bool.false_ne_true] at hset
    have hmeetings := (hmove.meetings actor).resolve_right fun h ↦ by simp [hopens] at h
    rw [hopens, hdone, if_pos rfl, if_neg Bool.false_ne_true] at hmeetings
    obtain ⟨rest, hrest⟩ := ih ⟨office.clerks.set who next, after⟩
      (hmove.neat hneat) (by omega)
    refine ⟨who :: rest, ?_⟩
    rw [play, List.foldl_cons, hact]
    refine hrest.trans ?_
    simp only [expected]
    omega

/-- Clerks begin to record notes where an actor and the assistant have no conversation of just the
two. Whatever the order of their calls, the two then have as many conversations, together with those
that are about to be opened, as clerks were about to open one at the same moment, when most were; so
they have one at most if there was never more than one such clerk. All of these conversations can
come to be opened. -/
theorem play_meetings (hlawful : house.Lawful) {outside : σ} (hneat : house.Neat outside)
    {actor : String}
    (hnone : ∀ entry ∈ (house.store outside).conversations, ¬ entry.2.IsBetween assistant actor)
    (notes : List Note) (schedule : List Nat) :
    let recorder : Recorder σ := ⟨.ofStore house, assistant⟩
    let meetings (office : Office σ) := (house.store office.outside).meetings assistant actor
    let final := (begin notes outside).play recorder schedule
    IsGreatest ((begin notes outside).openingsDuring recorder schedule actor)
        (meetings final + final.openings actor) ∧
      ∃ rest, meetings ((begin notes outside).play recorder (schedule ++ rest)) =
        meetings final + final.openings actor := by
  intro recorder meetings final
  obtain ⟨hneat', hgreatest⟩ := play_expected hlawful (begin notes outside) hneat
    (Store.meetings_eq_zero.mpr hnone) schedule
  obtain ⟨rest, hrest⟩ := exists_play_meetings hlawful assistant _ hneat' actor
  refine ⟨hgreatest, rest, ?_⟩
  rw [play, List.foldl_append]
  exact hrest

/-- Two tasks of one actor, of which the second is begun when the conversation for the first has
been opened. -/
theorem play_meetings_in_turn :
    let memory : Memory := { now := ⟨0, 0⟩, ids := growingId }
    let recorder : Recorder Memory := ⟨.ofStore Memory.household, "bot"⟩
    let office := begin [.task "u-1" "first", .task "u-1" "second"] memory
    Memory.household.Lawful ∧ Memory.household.Neat memory ∧
      (∀ entry ∈ memory.messages.conversations, ¬ entry.2.IsBetween "bot" "u-1") ∧
      IsGreatest (office.openingsDuring recorder [0, 0, 1, 1, 0] "u-1") 1 := by
  intro memory recorder office
  have hneat : Memory.household.Neat memory :=
    ⟨Memory.tidy (by simp [memory]) eq_of_growingId (by simp [memory, Entries.names]),
      List.nodup_nil⟩
  have hnone : ∀ entry ∈ memory.messages.conversations, ¬ entry.2.IsBetween "bot" "u-1" := by
    simp [memory]
  let final := office.play recorder [0, 0, 1, 1, 0]
  have hone : final.outside.messages.meetings "bot" "u-1" + final.openings "u-1" = 1 := by decide
  have hgreatest : IsGreatest _
      (final.outside.messages.meetings "bot" "u-1" + final.openings "u-1") :=
    (play_meetings Memory.lawful_household hneat hnone
      [.task "u-1" "first", .task "u-1" "second"] [0, 0, 1, 1, 0]).1
  rw [hone] at hgreatest
  exact ⟨Memory.lawful_household, hneat, hnone, hgreatest⟩

/-- Two tasks of one actor, of which either is begun before the conversation for the other is
opened: two conversations of the actor with the assistant are opened. -/
theorem meetings_at_once :
    let memory : Memory := { now := ⟨0, 0⟩, ids := growingId }
    let final := (begin [.task "u-1" "first", .task "u-1" "second"] memory).play
      ⟨.ofStore Memory.household, "bot"⟩ [0, 1, 0, 1]
    memory.messages.meetings "bot" "u-1" = 0 ∧
      final.outside.messages.meetings "bot" "u-1" = 2 := by
  decide

end Office

end Errand.Messaging
