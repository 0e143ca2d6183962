import Errand.Proofs.Run.Contest
import Errand.Proofs.Run.History

/-!
# Requests for different threads

Commissions for different threads are carried out at the same time, by one team and with one store
in memory. In a `Traffic` each of them has a driver, and a schedule says whose call comes next.
`Store.Alike` is what a store shows of a thread: the run that is kept for it and whether it is
claimed. A call depends on nothing else of the store (`Contender.act_alike`) and changes nothing of
what the store shows of other threads (`Contender.alike_touch_of_ne`). Hence a driver that shares
the store with others stands after its calls where it stands if it makes them alone
(`Traffic.apart_play`), and `serve_apart` has what this means for the outcomes and for the store.
-/

set_option autoImplicit false

namespace Errand

open Checkpoint (Store)
open Scripted (kept lookup_kept_of_ne mem_claims_kept limits_kept)

variable {σ : Type}

/-! ### What a store shows of a thread -/

/-- Whether two stores show the same of a thread. -/
structure Checkpoint.Store.Alike (thread : String) (store other : Store) : Prop where
  limits : other.limits = store.limits
  kept : other.kept.lookup thread = store.kept.lookup thread
  claims : thread ∈ other.claims ↔ thread ∈ store.claims

namespace Checkpoint.Store.Alike

variable {thread : String} {store other last : Store}

theorem refl (thread : String) (store : Store) : Alike thread store store :=
  ⟨rfl, rfl, .rfl⟩

theorem trans (h : Alike thread store other) (h' : Alike thread other last) :
    Alike thread store last :=
  ⟨h'.limits.trans h.limits, h'.kept.trans h.kept, h'.claims.trans h.claims⟩

/-- The same run is loaded, or the same fault is met. -/
theorem load (h : Alike thread store other) : other.load thread = store.load thread := by
  rw [Store.load, Store.load, h.kept]

/-- A claim comes to the same, and afterwards the stores still show the same. -/
theorem claim (h : Alike thread store other) :
    (other.claim thread).1 = (store.claim thread).1 ∧
      Alike thread (store.claim thread).2 (other.claim thread).2 := by
  by_cases hclaimed : thread ∈ store.claims
  · rw [claim_of_mem hclaimed, claim_of_mem (h.claims.mpr hclaimed)]
    exact ⟨rfl, h⟩
  · rw [Store.claim, Store.claim, if_neg hclaimed, if_neg (h.claims.not.mpr hclaimed), h.load]
    rcases store.load thread with fault | _ | run
    · exact ⟨rfl, h⟩
    · exact ⟨rfl, h⟩
    · exact ⟨rfl, h.limits, h.kept, by simp⟩

theorem release (h : Alike thread store other) :
    Alike thread (store.release thread) (other.release thread) where
  limits := h.limits
  kept := h.kept
  claims := iff_of_false (other.notMem_claims_release thread) (store.notMem_claims_release thread)

theorem keep (h : Alike thread store other) (run : Run) :
    Alike thread (Scripted.kept thread run store) (Scripted.kept thread run other) where
  limits := by rw [limits_kept, limits_kept, h.limits]
  kept := by
    by_cases hdone : run.stage = .done
    · rw [Scripted.kept_of_done hdone, Scripted.kept_of_done hdone, lookup_delete, lookup_delete]
    rw [Scripted.kept_of_ne_done hdone, Scripted.kept_of_ne_done hdone]
    by_cases hroomy : store.limits.roomy
    · rw [lookup_save hroomy, lookup_save (by rwa [h.limits])]
    · rw [save, save, h.limits, if_neg hroomy, if_neg hroomy, h.kept]
  claims := by rw [mem_claims_kept, mem_claims_kept, h.claims]

/-! Calls for another thread -/

variable {mine : String}

theorem claim_of_ne (hne : mine ≠ thread) (store : Store) :
    Alike mine store (store.claim thread).2 := by
  rw [Store.claim]
  split
  · exact refl mine store
  · rcases store.load thread with fault | _ | run
    · exact refl mine store
    · exact refl mine store
    · exact ⟨rfl, rfl, by simp [hne]⟩

theorem release_of_ne (hne : mine ≠ thread) (store : Store) :
    Alike mine store (store.release thread) :=
  ⟨rfl, rfl, by simp [Store.release, hne]⟩

theorem keep_of_ne (hne : mine ≠ thread) (run : Run) (store : Store) :
    Alike mine store (Scripted.kept thread run store) :=
  ⟨limits_kept run store, lookup_kept_of_ne hne run store, by simp [mem_claims_kept, hne]⟩

end Checkpoint.Store.Alike

/-! ### Collaborators that always answer alike -/

/-- Whether the outcome of every inquiry depends on the inquiry alone. -/
def Team.Steady (team : Team σ) : Prop :=
  ∀ inquiry outside outside',
    (team.ask inquiry outside).1.outcome = (team.ask inquiry outside').1.outcome

/-- A run makes the same transition at all times. -/
theorem Team.Steady.turn {team : Team σ} (h : team.Steady) (run : Run) (outside outside' : σ) :
    (run.turn team outside).1 = (run.turn team outside').1 ∧
      (run.turn team outside).2.1 = (run.turn team outside').2.1 := by
  cases hinquiry : run.inquiry team with
  | error fault =>
    rw [Run.turn_of_silent _ hinquiry, Run.turn_of_silent _ hinquiry]
    exact ⟨rfl, rfl⟩
  | ok inquiry =>
    rw [Run.turn_of_asked _ hinquiry, Run.turn_of_asked _ hinquiry, h inquiry outside outside']
    cases (team.ask inquiry outside').1.outcome with
    | error fault => exact ⟨rfl, rfl⟩
    | ok value =>
      dsimp only
      cases run.settle value <;> exact ⟨rfl, rfl⟩

/-! ### One call -/

namespace Contender

/-- What the call that is due does to a store in memory. -/
def touch (thread : String) (contender : Contender) (store : Store) : Store :=
  match contender with
  | .waiting _ => (store.claim thread).2
  | .driving (.recording run _) => kept thread run store
  | .driving (.releasing _) => store.release thread
  | .driving (.moving _ _) | .ended _ => store

variable {team : Team σ} {place : σ → Store} {thread mine : String} {scene scene' : Scene σ}

theorem place_act (hteam : team.KeepsIn place) (contender : Contender) (scene : Scene σ) :
    place (contender.act team thread scene).2.outside =
      contender.touch thread (place scene.outside) := by
  cases contender with
  | waiting watched =>
    obtain ⟨after, hclaim, hplace⟩ := hteam.claim thread scene
    simp only [act, hclaim, touch, hplace]
  | driving journey =>
    cases journey with
    | moving run claimed =>
      by_cases hdone : run.stage = .done
      · simp only [act, Journey.next_of_done scene hdone, touch, Journey.outside_reportEnd]
      have hplace := hteam.turn run scene.outside
      rcases hturn : run.turn team scene.outside with ⟨_ | fault, next, after⟩
      · obtain ⟨last, hact, hlast⟩ := act_of_turn thread claimed hdone hturn
        rw [hact, touch, ← hplace, hturn, hlast]
      · obtain ⟨last, hact, hlast⟩ := act_of_fault thread claimed hdone hturn
        rw [hact, touch, ← hplace, hturn, hlast]
    | recording run claimed =>
      obtain ⟨after, hkeep, hplace⟩ := hteam.keep thread run scene.outside
      obtain ⟨last, hact, hlast⟩ := act_of_keep claimed hkeep
      rw [hact, hlast, hplace, touch]
    | releasing fault =>
      have hrelease := Journey.outside_leave team thread true scene
      simp only [Journey.leave, if_true] at hrelease
      simp only [act, Journey.next, hrelease, hteam.giveBack, if_true, touch]
  | ended outcome => rfl

/-- What becomes of a contender depends on what the store shows of its thread, and on nothing else
outside. -/
theorem act_alike (hteam : team.KeepsIn place) (hsteady : team.Steady)
    (h : Store.Alike thread (place scene.outside) (place scene'.outside)) (contender : Contender) :
    (contender.act team thread scene').1 = (contender.act team thread scene).1 := by
  cases contender with
  | waiting watched =>
    obtain ⟨after, hclaim, -⟩ := hteam.claim thread scene
    obtain ⟨after', hclaim', -⟩ := hteam.claim thread scene'
    simp only [act, hclaim, hclaim', h.claim.1]
  | driving journey =>
    cases journey with
    | moving run claimed =>
      by_cases hdone : run.stage = .done
      · simp only [act, Journey.next_of_done _ hdone]
      obtain ⟨hfault, hnext⟩ := hsteady.turn run scene.outside scene'.outside
      rcases hturn : run.turn team scene.outside with ⟨_ | fault, next, after⟩ <;>
        rcases hturn' : run.turn team scene'.outside with ⟨_ | fault', next', after'⟩ <;>
        rw [hturn, hturn'] at hfault hnext <;> cases hfault <;> cases hnext
      · obtain ⟨last, hact, -⟩ := act_of_turn thread claimed hdone hturn
        obtain ⟨last', hact', -⟩ := act_of_turn thread claimed hdone hturn'
        rw [hact, hact']
      · obtain ⟨last, hact, -⟩ := act_of_fault thread claimed hdone hturn
        obtain ⟨last', hact', -⟩ := act_of_fault thread claimed hdone hturn'
        rw [hact, hact']
    | recording run claimed =>
      obtain ⟨after, hkeep, -⟩ := hteam.keep thread run scene.outside
      obtain ⟨after', hkeep', -⟩ := hteam.keep thread run scene'.outside
      obtain ⟨last, hact, -⟩ := act_of_keep claimed hkeep
      obtain ⟨last', hact', -⟩ := act_of_keep claimed hkeep'
      rw [hact, hact']
    | releasing fault => rfl
  | ended outcome => rfl

/-- Stores that show the same of a thread do so after the call. -/
theorem alike_touch {store other : Store} (h : store.Alike thread other) (contender : Contender) :
    (contender.touch thread store).Alike thread (contender.touch thread other) := by
  rcases contender with watched | (⟨run, claimed⟩ | ⟨run, claimed⟩ | fault) | outcome
  · exact h.claim.2
  · exact h
  · exact h.keep run
  · exact h.release
  · exact h

/-- The call changes nothing of what the store shows of another thread. -/
theorem alike_touch_of_ne (hne : mine ≠ thread) (contender : Contender) (store : Store) :
    store.Alike mine (contender.touch thread store) := by
  rcases contender with watched | (⟨run, claimed⟩ | ⟨run, claimed⟩ | fault) | outcome
  · exact .claim_of_ne hne store
  · exact .refl mine store
  · exact .keep_of_ne hne run store
  · exact .release_of_ne hne store
  · exact .refl mine store

/-! ### Calls between which nobody else acts -/

theorem alone_add (team : Team σ) (thread : String) (acts more : Nat) (contender : Contender)
    (scene : Scene σ) :
    alone team thread (acts + more) contender scene =
      alone team thread more (alone team thread acts contender scene).1
        (alone team thread acts contender scene).2 := by
  induction acts generalizing contender scene with
  | zero => rw [Nat.zero_add, alone]
  | succ acts ih =>
    rw [Nat.add_right_comm, alone, alone]
    exact ih _ _

theorem alone_of_ended (acts : Nat) (outcome : Except RunFault (Option Run)) :
    alone team thread acts (.ended outcome) scene = (.ended outcome, scene) := by
  induction acts with
  | zero => rfl
  | succ acts ih =>
    rw [alone, act]
    exact ih

/-- A contender that has come to an end stays there. -/
theorem alone_of_le {contender : Contender} {acts acts' : Nat}
    {outcome : Except RunFault (Option Run)} {last : Scene σ} (hle : acts ≤ acts')
    (h : alone team thread acts contender scene = (.ended outcome, last)) :
    alone team thread acts' contender scene = (.ended outcome, last) := by
  obtain ⟨more, rfl⟩ := Nat.exists_eq_add_of_le hle
  rw [alone_add, h, alone_of_ended]

/-- There is one end only that a contender comes to. -/
theorem alone_unique {contender : Contender} {acts acts' : Nat}
    {outcome outcome' : Except RunFault (Option Run)} {last last' : Scene σ}
    (h : alone team thread acts contender scene = (.ended outcome, last))
    (h' : alone team thread acts' contender scene = (.ended outcome', last')) :
    outcome' = outcome ∧ last' = last := by
  rcases Nat.le_total acts acts' with hle | hle
  · rw [alone_of_le hle h] at h'
    cases h'
    exact ⟨rfl, rfl⟩
  · rw [alone_of_le hle h'] at h
    cases h
    exact ⟨rfl, rfl⟩

end Contender

/-! ### Traffic -/

/-- Somebody who carries out a commission for a thread. -/
structure Driver where
  /-- The thread. -/
  thread : String
  /-- How far it has come. -/
  contender : Contender

/-- What a driver and everything outside come to by calls between which nobody else acts. -/
def Driver.alone (team : Team σ) (acts : Nat) (driver : Driver) (scene : Scene σ) :
    Contender × Scene σ :=
  driver.contender.alone team driver.thread acts scene

namespace Commission

/-- Whoever carries out a commission, before the first call. -/
def driver : Commission → Driver
  | .perform thread task => ⟨thread, .driving (.moving (Run.start task) false)⟩
  | .resume thread watched => ⟨thread, .waiting watched⟩

@[simp] theorem thread_driver (commission : Commission) :
    commission.driver.thread = commission.thread := by
  cases commission <;> rfl

/-- A driver who is left alone carries out the commission. -/
theorem exists_alone_serve (team : Team σ) (commission : Commission) (scene : Scene σ) :
    ∃ acts, commission.driver.alone team acts scene =
      (.ended (commission.serve team scene).1, (commission.serve team scene).2) := by
  cases commission with
  | perform thread task => exact Contender.exists_alone_complete team thread _ scene
  | resume thread watched => exact Contender.exists_alone_resume team thread watched scene

/-- There are enough calls for all drivers, if each of them is left alone. -/
theorem exists_alone_ended (team : Team σ) (commissions : List Commission) (scene : Scene σ) :
    ∃ turns, ∀ commission ∈ commissions, ∀ acts ≥ turns,
      commission.driver.alone team acts scene =
        (.ended (commission.serve team scene).1, (commission.serve team scene).2) := by
  induction commissions with
  | nil => exact ⟨0, by simp⟩
  | cons commission rest ih =>
    obtain ⟨turns, hrest⟩ := ih
    obtain ⟨own, hown⟩ := commission.exists_alone_serve team scene
    refine ⟨max own turns, fun other hother acts hacts ↦ ?_⟩
    rcases List.mem_cons.mp hother with rfl | hother
    · exact Contender.alone_of_le (Nat.le_trans (Nat.le_max_left own turns) hacts) hown
    · exact hrest other hother acts (Nat.le_trans (Nat.le_max_right own turns) hacts)

end Commission

/-- Drivers who share everything outside. -/
structure Traffic (σ : Type) where
  /-- The drivers. -/
  drivers : List Driver
  /-- What they act in. -/
  scene : Scene σ

namespace Traffic

/-- One of the drivers makes the call that is due. -/
def act (team : Team σ) (traffic : Traffic σ) (who : Nat) : Traffic σ :=
  match traffic.drivers[who]? with
  | none => traffic
  | some driver =>
    let (contender, scene) := driver.contender.act team driver.thread traffic.scene
    { drivers := traffic.drivers.set who { driver with contender }, scene }

/-- The drivers make calls one after another as a schedule says. -/
def play (team : Team σ) (schedule : List Nat) (traffic : Traffic σ) : Traffic σ :=
  schedule.foldl (act team) traffic

theorem play_concat (team : Team σ) (schedule : List Nat) (who : Nat) (traffic : Traffic σ) :
    traffic.play team (schedule ++ [who]) = (traffic.play team schedule).act team who :=
  List.foldl_concat _ _ _ _

/-- What a driver came to, if it has come to an end. -/
def outcome? (traffic : Traffic σ) (who : Nat) : Option (Except RunFault (Option Run)) :=
  match traffic.drivers[who]? with
  | some ⟨_, .ended outcome⟩ => some outcome
  | _ => none

theorem outcome?_of_getElem? {traffic : Traffic σ} {who : Nat} {thread : String}
    {contender : Contender} (h : traffic.drivers[who]? = some ⟨thread, contender⟩)
    (outcome : Except RunFault (Option Run)) :
    traffic.outcome? who = some outcome ↔ contender = .ended outcome := by
  rw [outcome?, h]
  cases contender <;> simp

/-- Commissions that are carried out at the same time. -/
def begin (commissions : List Commission) (scene : Scene σ) : Traffic σ where
  drivers := commissions.map Commission.driver
  scene := scene

/-- Whether drivers stand after a schedule where each of them would stand if it had made its calls
alone, and the store shows of every thread what it would show then. -/
structure Apart (team : Team σ) (place : σ → Store) (initial : Traffic σ) (schedule : List Nat)
    (traffic : Traffic σ) : Prop where
  length : traffic.drivers.length = initial.drivers.length
  drivers : ∀ (who : Nat) (driver : Driver), initial.drivers[who]? = some driver →
    traffic.drivers[who]? =
      some ⟨driver.thread, (driver.alone team (schedule.count who) initial.scene).1⟩
  own : ∀ (who : Nat) (driver : Driver), initial.drivers[who]? = some driver →
    (place (driver.alone team (schedule.count who) initial.scene).2.outside).Alike driver.thread
      (place traffic.scene.outside)
  others : ∀ thread, (∀ driver ∈ initial.drivers, driver.thread ≠ thread) →
    (place initial.scene.outside).Alike thread (place traffic.scene.outside)

section Apart

variable {team : Team σ} {place : σ → Store} {initial traffic : Traffic σ} {schedule : List Nat}

theorem Apart.begin (team : Team σ) (place : σ → Store) (initial : Traffic σ) :
    Apart team place initial [] initial where
  length := rfl
  drivers _ _ hdriver := hdriver
  own _ driver _ := .refl driver.thread _
  others thread _ := .refl thread _

/-- Drivers at different places are on different threads. -/
theorem thread_ne {drivers : List Driver} (hthreads : (drivers.map Driver.thread).Nodup)
    {who other : Nat} {driver driver' : Driver} (hwho : drivers[who]? = some driver)
    (hother : drivers[other]? = some driver') (hne : who ≠ other) :
    driver'.thread ≠ driver.thread := by
  have hdriver : (drivers.map Driver.thread)[who]? = some driver.thread := by simp [hwho]
  have hdriver' : (drivers.map Driver.thread)[other]? = some driver'.thread := by simp [hother]
  intro hsame
  rw [hsame, ← hdriver] at hdriver'
  obtain ⟨hlt, -⟩ := List.getElem?_eq_some_iff.mp hdriver
  exact hne ((List.getElem?_inj hlt hthreads).mp hdriver'.symm)

/-- Calls of drivers on different threads do not meet. -/
theorem Apart.act (hteam : team.KeepsIn place) (hsteady : team.Steady)
    (hthreads : (initial.drivers.map Driver.thread).Nodup)
    (h : Apart team place initial schedule traffic) (who : Nat) :
    Apart team place initial (schedule ++ [who]) (traffic.act team who) := by
  cases hwho : initial.drivers[who]? with
  | none =>
    have hact : traffic.act team who = traffic := by
      rw [Traffic.act, List.getElem?_eq_none]
      rw [h.length]
      exact List.getElem?_eq_none_iff.mp hwho
    have hcount (other : Nat) (driver : Driver) (hother : initial.drivers[other]? = some driver) :
        (schedule ++ [who]).count other = schedule.count other := by
      have hne : who ≠ other := by
        rintro rfl
        simp [hwho] at hother
      simp [hne]
    rw [hact]
    refine ⟨h.length, fun other driver hother ↦ ?_, fun other driver hother ↦ ?_, h.others⟩
    · rw [hcount other driver hother, h.drivers other driver hother]
    · rw [hcount other driver hother]
      exact h.own other driver hother
  | some mine =>
    -- The driver that acts makes the call that it would make alone.
    let alone := mine.alone team (schedule.count who) initial.scene
    have halike : (place alone.2.outside).Alike mine.thread (place traffic.scene.outside) :=
      h.own who mine hwho
    obtain ⟨next, after, hcall⟩ : ∃ next after,
        alone.1.act team mine.thread traffic.scene = (next, after) := ⟨_, _, rfl⟩
    have hnext : next = (alone.1.act team mine.thread alone.2).1 := by
      rw [← Contender.act_alike hteam hsteady halike, hcall]
    have hplace : place after.outside =
        alone.1.touch mine.thread (place traffic.scene.outside) := by
      rw [← Contender.place_act hteam, hcall]
    have halone : mine.alone team ((schedule ++ [who]).count who) initial.scene =
        alone.1.act team mine.thread alone.2 := by
      rw [List.count_append, List.count_singleton_self]
      exact Contender.alone_add team mine.thread (schedule.count who) 1 _ _
    have hact : traffic.act team who =
        ⟨traffic.drivers.set who ⟨mine.thread, next⟩, after⟩ := by
      rw [Traffic.act, h.drivers who mine hwho]
      simp only [alone] at hcall
      simp only [hcall]
    have hlt : who < traffic.drivers.length := by
      rw [h.length]
      exact (List.getElem?_eq_some_iff.mp hwho).1
    rw [hact]
    refine ⟨by simp [h.length], fun other driver hother ↦ ?_, fun other driver hother ↦ ?_,
      fun thread hthread ↦ ?_⟩
    · by_cases hsame : who = other
      · subst hsame
        obtain rfl : mine = driver := Option.some.inj (hwho.symm.trans hother)
        rw [List.getElem?_set_self hlt, halone, hnext]
      · rw [List.getElem?_set_ne hsame, h.drivers other driver hother]
        simp [hsame]
    · by_cases hsame : who = other
      · subst hsame
        obtain rfl : mine = driver := Option.some.inj (hwho.symm.trans hother)
        rw [halone, Contender.place_act hteam, hplace]
        exact Contender.alike_touch halike _
      · have hown := h.own other driver hother
        have hne := thread_ne hthreads hwho hother hsame
        rw [hplace]
        simpa [hsame] using hown.trans (Contender.alike_touch_of_ne hne _ _)
    · rw [hplace]
      have hne := hthread mine (List.mem_of_getElem? hwho)
      exact (h.others thread hthread).trans (Contender.alike_touch_of_ne hne.symm _ _)

/-- Drivers on different threads stand after any schedule where they would stand alone. -/
theorem apart_play (hteam : team.KeepsIn place) (hsteady : team.Steady)
    (hthreads : (initial.drivers.map Driver.thread).Nodup) (schedule : List Nat) :
    Apart team place initial schedule (initial.play team schedule) := by
  induction schedule using List.reverseRecOn with
  | nil => exact .begin team place initial
  | append_singleton schedule who ih =>
    rw [play_concat]
    exact ih.act hteam hsteady hthreads who

end Apart

end Traffic

/-- Tasks are performed and runs are resumed on different threads, by one team whose collaborators
answer every inquiry in the same way at all times, and with one store in memory. Whatever the order
of their calls, a commission that has come to an end came to what it comes to if it is carried out
alone, and the store shows of its thread what it shows then. Each of them comes to an end when its
turn has come often enough, and of threads that nobody drives the store shows what it showed before.
-/
theorem serve_apart {team : Team σ} {place : σ → Store} (hteam : team.KeepsIn place)
    (hsteady : team.Steady) {commissions : List Commission}
    (hthreads : (commissions.map Commission.thread).Nodup) (scene : Scene σ) :
    (∀ schedule, let traffic := (Traffic.begin commissions scene).play team schedule
      (∀ who commission outcome, commissions[who]? = some commission →
        traffic.outcome? who = some outcome →
          outcome = (commission.serve team scene).1 ∧
            (place (commission.serve team scene).2.outside).Alike commission.thread
              (place traffic.scene.outside)) ∧
      ∀ thread ∉ commissions.map Commission.thread,
        (place scene.outside).Alike thread (place traffic.scene.outside)) ∧
    ∃ turns, ∀ schedule who commission, commissions[who]? = some commission →
      turns ≤ schedule.count who →
        ((Traffic.begin commissions scene).play team schedule).outcome? who =
          some (commission.serve team scene).1 := by
  have hdrivers : ((Traffic.begin commissions scene).drivers.map Driver.thread).Nodup := by
    simpa [Traffic.begin, Function.comp_def] using hthreads
  have hbegin (who : Nat) (commission : Commission) (hwho : commissions[who]? = some commission) :
      (Traffic.begin commissions scene).drivers[who]? = some commission.driver := by
    simp [Traffic.begin, hwho]
  refine ⟨?_, ?_⟩
  · intro schedule traffic
    have hplay := Traffic.apart_play hteam hsteady hdrivers schedule
    refine ⟨fun who commission outcome hwho houtcome ↦ ?_, fun thread hthread ↦ ?_⟩
    · have hdriver := hplay.drivers who _ (hbegin who commission hwho)
      rw [Traffic.outcome?_of_getElem? hdriver] at houtcome
      obtain ⟨acts, hacts⟩ := commission.exists_alone_serve team scene
      obtain ⟨rfl, hlast⟩ := Contender.alone_unique hacts (Prod.ext houtcome rfl)
      have hown := hplay.own who _ (hbegin who commission hwho)
      refine ⟨rfl, ?_⟩
      rw [← commission.thread_driver, ← hlast]
      exact hown
    · refine hplay.others thread fun driver hdriver hsame ↦ hthread ?_
      obtain ⟨commission, hcommission, rfl⟩ := List.mem_map.mp hdriver
      exact List.mem_map.mpr ⟨commission, hcommission, commission.thread_driver ▸ hsame⟩
  · obtain ⟨turns, hturns⟩ := Commission.exists_alone_ended team commissions scene
    refine ⟨turns, fun schedule who commission hwho hcount ↦ ?_⟩
    have hplay := Traffic.apart_play hteam hsteady hdrivers schedule
    rw [Traffic.outcome?_of_getElem? (hplay.drivers who _ (hbegin who commission hwho))]
    exact congrArg Prod.fst (hturns commission (List.mem_of_getElem? hwho) _ hcount)

/-- Collaborators that say the same at all times are steady. -/
theorem Team.steady_unanswering (plan : String) : (unanswering plan).Steady := by
  intro inquiry outside outside'
  cases inquiry with
  | plan task =>
    simp only [ask, Consult.outcome_map, unanswering]
    split <;> rfl
  | prompt text => rfl
  | operation name parameters context => rfl
  | answer request => rfl

/-- A run that only has to be answered is resumed without success, and can be claimed again. -/
theorem Run.resume_unanswering (text thread : String) (run : Run) {plan : Plan}
    (scene : Scene Store) (hstage : run.stage = .solve) (hplan : run.plan = some plan)
    (hcursor : run.cursor < 2 ^ 64) (hkept : scene.outside.kept.lookup thread = some run.write)
    (hfree : thread ∉ scene.outside.claims) :
    (Run.resume (.unanswering text) thread false scene).1 =
        .error (.solver (.internal "No answer")) ∧
      thread ∉ (Run.resume (.unanswering text) thread false scene).2.outside.claims := by
  obtain ⟨after, hclaim, -⟩ := (Team.keepsIn_unanswering text).claim thread scene
  rw [id_eq, Store.claim_of_lookup hcursor hkept hfree] at hclaim
  have hturn : (run.watch false).turn (.unanswering text) after.outside =
      (some (.solver (.internal "No answer")), run.watch false, after.outside) := by
    have hinquiry : (run.watch false).inquiry (.unanswering text) = .ok _ :=
      inquiry_solve _ hstage hplan
    rw [turn_of_asked _ hinquiry]
    change (some ((run.watch false).blame _), _, _) = _
    rw [blame, watch, hstage]
    rfl
  have hdone : (run.watch false).stage ≠ .done := by simp [watch, hstage]
  have hstopped : (run.watch false).Drives (.unanswering text) thread true after.outside
      (.error _) _ := .stopped hdone hturn
  obtain ⟨houtcome, hlast⟩ := (Journey.drives_complete _ after).unique hstopped
  let journey := (Journey.moving (run.watch false) true).complete (.unanswering text) thread after
  have hserved : Run.resume (.unanswering text) thread false scene =
      (journey.1.map some, journey.2) := by
    rw [Run.resume, hclaim]
    rfl
  rw [hserved, houtcome, hlast]
  exact ⟨rfl, Store.notMem_claims_release _ thread⟩

/-- A task is performed while a run on another thread is resumed, which only has to be answered. In
whatever order their calls are made, both are refused an answer, and the run that was resumed can be
claimed again. -/
theorem serve_apart_run_and_resume :
    let text := "a #E1=LLM[\x7bx\x7d]"
    let team := Team.unanswering text
    let task : Task := { instruction := "t", actor := "u-1" }
    let waiting : Run := { Run.start task with plan := some ⟨[], text⟩, stage := .solve }
    let scene : Scene Store := { outside := { kept := [("t-2", waiting.write)] } }
    let initial := Traffic.begin [.perform "t-1" task, .resume "t-2" false] scene
    ∃ turns, ∀ schedule, turns ≤ schedule.count 0 → turns ≤ schedule.count 1 →
      (initial.play team schedule).outcome? 0 = some (.error (.solver (.internal "No answer"))) ∧
        (initial.play team schedule).outcome? 1 =
          some (.error (.solver (.internal "No answer"))) ∧
        "t-2" ∉ (initial.play team schedule).scene.outside.claims := by
  intro text team task waiting scene initial
  have hteam : team.KeepsIn id := Team.keepsIn_unanswering text
  have hperform : (Run.perform team "t-1" task scene).1 =
      .error (.solver (.internal "No answer")) := by
    let step : Step := ⟨"a", "#E1", "LLM", "\x7bx\x7d"⟩
    let plan : Plan := ⟨[step], text⟩
    let planned : Run := { Run.start task with plan := some plan, stage := .tool }
    let stepped := planned.keepOutput plan step (Step.output (.str "yes"))
    have hparse : Plan.parse text = .ok plan := Plan.parse_of_toOption (by decide +kernel)
    obtain ⟨first, hkeep, -⟩ := hteam.keep "t-1" planned scene.outside
    obtain ⟨second, hkeep', -⟩ := hteam.keep "t-1" stepped first
    have hplan : (Run.start task).turn team scene.outside = (none, planned, scene.outside) :=
      Run.turn_start rfl hparse
    have hstep : planned.turn team first = (none, stepped, first) := rfl
    have hsolve : stepped.turn team second =
        (some (.solver (.internal "No answer")), stepped, second) := rfl
    have hsolved : stepped.stage = .solve := by
      simp [stepped, planned, Run.keepOutput, plan, Plan.size]
    have hdrives : (Run.start task).Drives team "t-1" false scene.outside (.error _) _ :=
      .onward (by simp [Run.start]) hplan hkeep
        (.onward (by simp [planned]) hstep hkeep' (.stopped (by simp [hsolved]) hsolve))
    exact ((Run.drives_perform team "t-1" task scene).unique hdrives).1
  have hresume := Run.resume_unanswering text "t-2" waiting scene rfl rfl (by decide) rfl
    (by decide)
  have hthreads : ([.perform "t-1" task, .resume "t-2" false].map Commission.thread).Nodup := by
    decide
  obtain ⟨horder, turns, hends⟩ :=
    serve_apart hteam (Team.steady_unanswering text) hthreads scene
  refine ⟨turns, fun schedule hfirst hsecond ↦ ?_⟩
  have hrun := hends schedule 0 (.perform "t-1" task) rfl hfirst
  have hresumed := hends schedule 1 (.resume "t-2" false) rfl hsecond
  obtain ⟨-, hshown⟩ := (horder schedule).1 1 (.resume "t-2" false) _ rfl hresumed
  have hclaims := hshown.claims
  simp only [Commission.serve, Commission.thread, id_eq] at hclaims
  rw [hrun, hresumed]
  simp only [Commission.serve]
  rw [hperform, hclaims]
  refine ⟨rfl, ?_⟩
  simpa only [team, Option.some.injEq] using hresume

end Errand
