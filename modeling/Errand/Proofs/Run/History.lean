import Errand.Proofs.Run.Keeping

/-!
# What requests leave behind

Commissions are carried out one after another: a task is performed in a thread, or a thread is
resumed. An `Episode` is what came of one of them: the runs after its successful transitions, in
order, and whether it failed. `leftBehind` is what a history of episodes leaves of a thread. Only
the last episode that got anywhere counts; if it failed, its last run is left to be resumed.

`claim_after_history` says that this is what a store in memory holds: between two commissions no
thread is claimed, and the run that is kept for a thread, if there is one, is the run that was left
behind. One commission changes the entry of its own thread at most (`Aftermath`).
-/

set_option autoImplicit false

namespace Errand

open Scripted (kept lookup_kept lookup_kept_of_ne mem_claims_kept)

variable {σ : Type}

namespace Run

/-! ### The runs on the way -/

/-- A transition brings a run closer to its end. -/
theorem closer_turn {team : Team σ} {run next : Run} {outside after : σ}
    (h : run.turn team outside = (none, next, after)) : Closer next run := by
  have hcloser := run.closer_advance team { outside }
  rw [fault_advance, run_advance, h] at hcloser
  exact hcloser rfl

/-- The runs after the successful transitions of a run that is driven, in order. -/
def trail (team : Team σ) (thread : String) (run : Run) (outside : σ) : List Run :=
  match _h : run.turn team outside with
  | (some _, _, _) => []
  | (none, next, between) =>
    match team.keep thread next between with
    | (.error _, _) => [next]
    | (.ok _, after) => next :: trail team thread next after
termination_by (run.stagesLeft, run.stepsLeft)
decreasing_by
  rcases closer_turn _h with hstages | ⟨hstages, hsteps⟩
  · exact .left _ _ hstages
  · rw [hstages]
    exact .right _ hsteps

section Trail

variable {team : Team σ} {thread : String} {run next : Run} {outside between after : σ}

theorem trail_of_fault {fault : RunFault}
    (hturn : run.turn team outside = (some fault, next, between)) :
    run.trail team thread outside = [] := by
  rw [trail]
  split <;> simp_all

theorem trail_of_keep (hturn : run.turn team outside = (none, next, between))
    (hkeep : team.keep thread next between = (.ok (), after)) :
    run.trail team thread outside = next :: next.trail team thread after := by
  rw [trail]
  split
  · simp_all
  · next hturn' =>
    obtain ⟨rfl, rfl⟩ : _ ∧ _ := by simpa [hturn] using hturn'
    simp only [hkeep]

/-- The transition that succeeded before a run could not be kept is the last one. -/
theorem trail_of_lost {fault : Fault} (hturn : run.turn team outside = (none, next, between))
    (hkeep : team.keep thread next between = (.error fault, after)) :
    run.trail team thread outside = [next] := by
  rw [trail]
  split
  · simp_all
  · next hturn' =>
    obtain ⟨rfl, rfl⟩ : _ ∧ _ := by simpa [hturn] using hturn'
    simp only [hkeep]

theorem trail_of_done (hdone : run.stage = .done) : run.trail team thread outside = [] := by
  have hinquiry : run.inquiry team = .error (.routing "Run already finished") := by
    rw [inquiry, hdone]
  exact trail_of_fault (turn_of_silent outside hinquiry)

end Trail

end Run

/-! ### Commissions and episodes -/

/-- What is asked of the agent. -/
inductive Commission
  /-- To perform a task in a thread. -/
  | perform (thread : String) (task : Task)
  /-- To resume the run of a thread. -/
  | resume (thread : String) (watched : Bool)

namespace Commission

/-- The thread that a commission is about. -/
def thread : Commission → String
  | .perform thread _ => thread
  | .resume thread _ => thread

/-- Carries out a commission. -/
def serve (team : Team σ) (commission : Commission) (scene : Scene σ) :
    Except RunFault (Option Run) × Scene σ :=
  match commission with
  | .perform thread task =>
    let (outcome, after) := Run.perform team thread task scene
    (outcome.map some, after)
  | .resume thread watched => Run.resume team thread watched scene

/-- The runs after the successful transitions that a commission makes, in order. -/
def trail (team : Team σ) (commission : Commission) (scene : Scene σ) : List Run :=
  match commission with
  | .perform thread task => (Run.start task).trail team thread scene.outside
  | .resume thread watched =>
    match Run.claim team thread scene with
    | (.ok (some run), after) => (run.watch watched).trail team thread after.outside
    | _ => []

end Commission

/-- What came of a commission. -/
structure Episode where
  /-- The thread that it was about. -/
  thread : String
  /-- The runs after its successful transitions, in order. -/
  trail : List Run
  /-- Whether it ended with a fault. -/
  failed : Bool

/-- Carries out commissions one after another. -/
def history (team : Team σ) : List Commission → Scene σ → List Episode × Scene σ
  | [], scene => ([], scene)
  | commission :: rest, scene =>
    let (outcome, after) := commission.serve team scene
    let (episodes, last) := history team rest after
    (⟨commission.thread, commission.trail team scene, !outcome.isOk⟩ :: episodes, last)

/-- The run that episodes leave of a thread. Of those that made a transition at least, the last one
counts: if it failed, its last run is left. -/
def leftBehind (thread : String) (episodes : List Episode) : Option Run :=
  match (episodes.filter fun episode ↦
      episode.thread = thread && !episode.trail.isEmpty).getLast? with
  | none => none
  | some episode => if episode.failed then episode.trail.getLast? else none

theorem leftBehind_append (thread : String) (past : List Episode) (episode : Episode) :
    leftBehind thread (past ++ [episode]) =
      if episode.thread = thread ∧ episode.trail ≠ [] then
        if episode.failed then episode.trail.getLast? else none
      else leftBehind thread past := by
  by_cases h : episode.thread = thread ∧ episode.trail ≠ []
  · simp [leftBehind, List.filter_append, h.1, h.2]
  · have hfilter : (decide (episode.thread = thread) && !episode.trail.isEmpty) = false := by
      simpa using h
    simp [leftBehind, List.filter_append, hfilter, h]

/-! ### What one commission does to the store -/

/-- What a commission for a thread does to a store: no thread is claimed any more, the runs of other
threads stay, and so does the run of this one unless there was a transition. If there was one, it is
removed, or replaced by the last run if the commission failed. -/
structure Aftermath (thread : String) (trail : List Run) (failed : Bool)
    (before after : Checkpoint.Store) : Prop where
  limits : after.limits = before.limits
  claims : after.claims = []
  others : ∀ other, other ≠ thread → after.kept.lookup other = before.kept.lookup other
  own : after.kept.lookup thread =
    if trail = [] then before.kept.lookup thread
    else if failed then trail.getLast?.map Run.write else none
  keepable : failed → ∀ last ∈ trail.getLast?, last.Keepable

section Aftermath

variable {team : Team σ} {place : σ → Checkpoint.Store} {thread : String}

/-- A transition whose run is kept comes before what is done to the store after it. -/
theorem Aftermath.onward {next : Run} {trail : List Run} {failed : Bool}
    {before after : Checkpoint.Store} (hroomy : before.limits.roomy)
    (h : Aftermath thread trail failed (kept thread next before) after)
    (hdone : next.stage = .done → trail = [] ∧ failed = false)
    (hgoes : next.stage ≠ .done → next.Keepable ∧ (trail = [] → failed = true)) :
    Aftermath thread (next :: trail) failed before after where
  limits := h.limits.trans (Scripted.limits_kept next before)
  claims := h.claims
  others other hother := (h.others other hother).trans (lookup_kept_of_ne hother next before)
  own := by
    rw [if_neg (List.cons_ne_nil next trail), h.own, lookup_kept hroomy]
    by_cases hstage : next.stage = .done
    · obtain ⟨rfl, rfl⟩ := hdone hstage
      simp [Run.unfinished_of_done hstage]
    · by_cases htrail : trail = []
      · simp [htrail, Run.unfinished_of_ne_done hstage, (hgoes hstage).2 htrail]
      · rw [if_neg htrail, List.getLast?_cons_of_ne_nil htrail]
  keepable hfailed last hlast := by
    by_cases htrail : trail = []
    · subst htrail
      obtain rfl : next = last := by simpa using hlast
      refine (hgoes fun hstage ↦ ?_).1
      simp [(hdone hstage).2] at hfailed
    · rw [List.getLast?_cons_of_ne_nil htrail] at hlast
      exact h.keepable hfailed last hlast

/-- A run that is done makes no transition and succeeds; one that is not and makes none fails. -/
theorem Run.Drives.failed_iff {claimed : Bool} {run : Run} {outside after : σ}
    {outcome : Except RunFault Run} (h : run.Drives team thread claimed outside outcome after) :
    (run.stage = .done → run.trail team thread outside = [] ∧ (!outcome.isOk) = false) ∧
      (run.stage ≠ .done → run.trail team thread outside = [] → (!outcome.isOk) = true) := by
  refine ⟨fun hdone ↦ ⟨Run.trail_of_done hdone, ?_⟩, fun hdone htrail ↦ ?_⟩
  · cases h with
    | finished _ => rfl
    | stopped hnot _ => exact absurd hdone hnot
    | lost hnot _ _ => exact absurd hdone hnot
    | onward hnot _ _ _ => exact absurd hdone hnot
  · cases h with
    | finished hnot => exact absurd hnot hdone
    | stopped _ _ => rfl
    | lost _ _ _ => rfl
    | onward _ hturn hkeep _ => simp [Run.trail_of_keep hturn hkeep] at htrail

/-- What driving a run does to the store. If a thread is claimed at all, it is the thread of the
run, and the run goes on and gives the claim back. -/
theorem Run.Drives.aftermath {claimed : Bool} {run : Run} {outside after : σ}
    {outcome : Except RunFault Run} (hteam : team.KeepsIn place)
    (h : run.Drives team thread claimed outside outcome after)
    (hrun : run.stage = .done ∨ run.Ready team)
    (hroomy : (place outside).limits.roomy)
    (hclaims : ∀ other ∈ (place outside).claims,
      other = thread ∧ claimed = true ∧ run.stage ≠ .done) :
    Aftermath thread (run.trail team thread outside) (!outcome.isOk) (place outside)
      (place after) := by
  induction h with
  | @finished run outside hdone =>
    rw [Run.trail_of_done hdone]
    refine ⟨rfl, List.eq_nil_iff_forall_not_mem.mpr fun other hother ↦ ?_, fun _ _ ↦ rfl,
      by rw [if_pos rfl], by simp⟩
    exact (hclaims other hother).2.2 hdone
  | @stopped run next outside between fault hdone hturn =>
    have hplace := hteam.turn run outside
    rw [hturn] at hplace
    rw [Run.trail_of_fault hturn, hteam.giveBack, hplace]
    cases claimed with
    | false =>
      refine ⟨rfl, List.eq_nil_iff_forall_not_mem.mpr fun other hother ↦ ?_, fun _ _ ↦ rfl,
        by simp, by simp⟩
      simpa using (hclaims other hother).2.1
    | true =>
      refine ⟨rfl, List.eq_nil_iff_forall_not_mem.mpr fun other hother ↦ ?_, fun _ _ ↦ rfl,
        by simp [Checkpoint.Store.release], by simp⟩
      obtain ⟨hmem, hne⟩ := List.mem_filter.mp hother
      exact absurd (hclaims other hmem).1 (by simpa using hne)
  | @lost _ next _ between _ _ _ _ hkeep =>
    obtain ⟨kept, hkept, -⟩ := hteam.keep thread next between
    simp [hkept] at hkeep
  | @onward run next outside between between' after outcome hdone hturn hkeep hrest ih =>
    have hplace := hteam.turn run outside
    rw [hturn] at hplace
    obtain ⟨stored, hstored, hstore⟩ := hteam.keep thread next between
    obtain rfl : stored = between' := by simpa [hstored] using hkeep
    rw [hplace] at hstore
    have hnext := (hrun.resolve_left hdone).done_or_keepable hturn
    have hrest' := ih (hnext.imp_right .inl)
      (by rw [hstore, Scripted.limits_kept]; exact hroomy) fun other hother ↦ by
        rw [hstore] at hother
        obtain ⟨hmem, hgoes⟩ := mem_claims_kept.mp hother
        obtain ⟨hself, hclaimed, -⟩ := hclaims other hmem
        exact ⟨hself, hclaimed, hgoes hself⟩
    rw [hstore] at hrest'
    rw [Run.trail_of_keep hturn hkeep]
    obtain ⟨hends, hfails⟩ := hrest.failed_iff
    exact hrest'.onward hroomy hends fun hgoes ↦ ⟨hnext.resolve_left hgoes, hfails hgoes⟩

end Aftermath

/-! ### What a history leaves in the store -/

section History

variable {team : Team σ} {place : σ → Checkpoint.Store}

/-- What episodes leave in a store in memory: no claim, and of each thread what is left behind of
it. -/
structure Leaves (past : List Episode) (store : Checkpoint.Store) : Prop where
  roomy : store.limits.roomy
  claims : store.claims = []
  lookup : ∀ thread, store.kept.lookup thread = (leftBehind thread past).map Run.write
  keepable : ∀ thread, ∀ run ∈ leftBehind thread past, run.Keepable

/-- What is left behind of a thread can be loaded. -/
theorem Leaves.load {past : List Episode} {store : Checkpoint.Store} (h : Leaves past store)
    (thread : String) :
    store.load thread = .ok ((leftBehind thread past).map (·.watch false)) := by
  have hlookup := h.lookup thread
  cases hleft : leftBehind thread past with
  | none =>
    rw [hleft] at hlookup
    exact Checkpoint.Store.load_of_lookup_eq_none hlookup
  | some run =>
    rw [hleft] at hlookup
    exact Checkpoint.Store.load_of_lookup (h.keepable thread run hleft).cursor_lt hlookup

/-- What is left behind of a thread is granted to whoever claims it. -/
theorem Leaves.claim {past : List Episode} {store : Checkpoint.Store} (h : Leaves past store)
    (thread : String) :
    store.claim thread = (.ok ((leftBehind thread past).map (·.watch false)),
      match leftBehind thread past with
      | none => store
      | some _ => { store with claims := [thread] }) := by
  have hfree : thread ∉ store.claims := by simp [h.claims]
  rw [Checkpoint.Store.claim, if_neg hfree, h.load]
  cases leftBehind thread past with
  | none => rfl
  | some run => simp [h.claims]

/-- One more episode. -/
theorem Leaves.append {past : List Episode} {episode : Episode} {before after : Checkpoint.Store}
    (h : Leaves past before)
    (hafter : Aftermath episode.thread episode.trail episode.failed before after) :
    Leaves (past ++ [episode]) after where
  roomy := by
    rw [hafter.limits]
    exact h.roomy
  claims := hafter.claims
  lookup thread := by
    rw [leftBehind_append]
    by_cases hthread : episode.thread = thread
    · subst hthread
      rw [hafter.own, h.lookup]
      by_cases htrail : episode.trail = []
      · simp [htrail]
      · cases hfailed : episode.failed <;> simp [htrail]
    · rw [hafter.others thread (Ne.symm hthread), h.lookup]
      simp [hthread]
  keepable thread run hrun := by
    rw [leftBehind_append] at hrun
    split at hrun
    · split at hrun
      · next hfailed => exact hafter.keepable hfailed run hrun
      · cases hrun
    · exact h.keepable thread run hrun

theorem isOk_map {ε α β : Type} (outcome : Except ε α) (f : α → β) :
    (outcome.map f).isOk = outcome.isOk := by
  cases outcome <;> rfl

/-- What a commission does to a store that holds what a history left. -/
theorem Leaves.serve (hteam : team.KeepsIn place) (hbrief : team.Brief) {past : List Episode}
    {scene : Scene σ} (h : Leaves past (place scene.outside)) (commission : Commission) :
    Aftermath commission.thread (commission.trail team scene)
      (!(commission.serve team scene).1.isOk) (place scene.outside)
      (place (commission.serve team scene).2.outside) := by
  cases commission with
  | perform thread task =>
    have hdrives := Run.drives_perform team thread task scene
    have hafter := hdrives.aftermath hteam (.inr (.inr ⟨Run.fresh_start task, hbrief⟩)) h.roomy
      (by simp [h.claims])
    simp only [Commission.serve, isOk_map]
    exact hafter
  | resume thread watched =>
    obtain ⟨after, hclaim, hplace⟩ := hteam.claim thread scene
    rw [h.claim] at hclaim hplace
    cases hleft : leftBehind thread past with
    | none =>
      rw [hleft] at hclaim hplace
      have hnothing : Aftermath thread [] false (place scene.outside) (place after.outside) := by
        rw [hplace]
        exact ⟨rfl, h.claims, fun _ _ ↦ rfl, by rw [if_pos rfl], by simp⟩
      simpa [Commission.serve, Commission.trail, Commission.thread, Run.resume, hclaim,
        Except.mapError, Except.isOk, Except.toBool] using hnothing
    | some run =>
      rw [hleft] at hclaim hplace
      have hkeepable := (h.keepable thread run hleft).watch watched
      have hdrives := @Journey.drives_complete _ team thread true (run.watch watched) after
      have hafter := hdrives.aftermath hteam (.inr (.inl hkeepable))
        (by rw [hplace]; exact h.roomy) fun other hother ↦ by
          rw [hplace] at hother
          exact ⟨List.mem_singleton.mp hother, rfl, hkeepable.stage_ne_done⟩
      rw [hplace] at hafter
      simp only [Commission.serve, Commission.trail, Commission.thread, Run.resume, hclaim,
        Option.map_some, Except.mapError, isOk_map]
      exact ⟨hafter.limits, hafter.claims, hafter.others, hafter.own, hafter.keepable⟩

/-- What a history leaves in a store that held what the past had left. -/
theorem Leaves.history (hteam : team.KeepsIn place) (hbrief : team.Brief)
    (commissions : List Commission) {past : List Episode} {scene : Scene σ}
    (h : Leaves past (place scene.outside)) :
    Leaves (past ++ (history team commissions scene).1)
      (place (history team commissions scene).2.outside) := by
  induction commissions generalizing past scene with
  | nil => simpa [Errand.history] using h
  | cons commission rest ih =>
    let episode : Episode := ⟨commission.thread, commission.trail team scene,
      !(commission.serve team scene).1.isOk⟩
    have hepisode : Leaves (past ++ [episode])
        (place (commission.serve team scene).2.outside) :=
      h.append (h.serve hteam hbrief commission)
    have hrest := ih hepisode
    rwa [List.append_assoc, List.singleton_append] at hrest

/-- Commissions of any kind are carried out one after another, for any threads and with any
collaborators, and their runs are kept in a store in memory that held nothing before. Then no thread
is claimed, and what is kept for a thread, and granted to whoever claims it, is the run that is left
behind: that of the last transition of the last commission for the thread that made one, if that
commission failed, and nothing otherwise. Such a run has a plan and is to carry out a step or to be
answered. -/
theorem claim_after_history (hteam : team.KeepsIn place) (hbrief : team.Brief) {scene : Scene σ}
    (hroomy : (place scene.outside).limits.roomy) (hkept : (place scene.outside).kept = [])
    (hclaims : (place scene.outside).claims = []) (commissions : List Commission) :
    let episodes := (history team commissions scene).1
    let last := (history team commissions scene).2
    (place last.outside).claims = [] ∧
      ∀ thread,
        (place last.outside).load thread =
          .ok ((leftBehind thread episodes).map (·.watch false)) ∧
        (Run.claim team thread last).1 =
          .ok ((leftBehind thread episodes).map (·.watch false)) ∧
        ∀ run ∈ leftBehind thread episodes,
          (run.stage = .tool ∨ run.stage = .solve) ∧ run.plan.isSome := by
  intro episodes last
  have hbegin : Leaves [] (place scene.outside) :=
    ⟨hroomy, hclaims, fun thread ↦ by simp [hkept, leftBehind], by simp [leftBehind]⟩
  have hend : Leaves episodes (place last.outside) := by
    simpa using hbegin.history hteam hbrief commissions
  refine ⟨hend.claims, fun thread ↦ ⟨hend.load thread, ?_, fun run hrun ↦ ?_⟩⟩
  · obtain ⟨after, hclaim, -⟩ := hteam.claim thread last
    rw [hclaim, hend.claim]
    rfl
  · have hkeepable := hend.keepable thread run hrun
    obtain ⟨plan, hplan, -⟩ := hkeepable.fits
    exact ⟨hkeepable.stage, by simp [hplan]⟩

/-- The solver fails, and then a second task for the same thread cannot be planned. The run of the
first task is left, with its step done, and may be claimed. -/
theorem claim_after_history_two_failures :
    let text := "a #E1=LLM[\x7bx\x7d]"
    let team := Team.unanswering text
    let task : Task := { instruction := "t", actor := "u-1" }
    let last := (history team
      [.perform "t-1" task, .perform "t-1" { task with instruction := "" }] { outside := {} }).2
    last.outside.claims = [] ∧
      ∃ run, (Run.claim team "t-1" last).1 = .ok (some run) ∧ run.stage = .solve ∧
        run.cursor = 1 := by
  intro text team task last
  let step : Step := ⟨"a", "#E1", "LLM", "\x7bx\x7d"⟩
  let plan : Plan := ⟨[step], text⟩
  let planned : Run := { Run.start task with plan := some plan, stage := .tool }
  let stepped := planned.keepOutput plan step (Step.output (.str "yes"))
  have hparse : Plan.parse text = .ok plan := Plan.parse_of_toOption (by decide +kernel)
  have hplan : (Run.start task).turn team {} = (none, planned, {}) := Run.turn_start rfl hparse
  have hteam : team.KeepsIn id := Team.keepsIn_unanswering text
  obtain ⟨first, hkeep, -⟩ := hteam.keep "t-1" planned {}
  obtain ⟨second, hkeep', -⟩ := hteam.keep "t-1" stepped first
  have hstep : planned.turn team first = (none, stepped, first) := rfl
  have hsolve : stepped.turn team second =
      (some (.solver (.internal "No answer")), stepped, second) := rfl
  have htrail : (Run.start task).trail team "t-1" {} = [planned, stepped] := by
    rw [Run.trail_of_keep hplan hkeep, Run.trail_of_keep hstep hkeep', Run.trail_of_fault hsolve]
  have hsolved : stepped.stage = .solve := by
    simp [stepped, planned, Run.keepOutput, plan, Plan.size]
  have hfails : (Run.perform team "t-1" task { outside := {} }).1.isOk = false := by
    have hdrives : (Run.start task).Drives team "t-1" false {} (.error _) _ :=
      .onward (by simp [Run.start]) hplan hkeep (.onward (by simp [planned]) hstep hkeep'
        (.stopped (by simp [hsolved]) hsolve))
    rw [((Run.drives_perform team "t-1" task { outside := {} }).unique hdrives).1]
    rfl
  have hnothing (scene : Scene Checkpoint.Store) :
      (Run.start { task with instruction := "" }).trail team "t-1" scene.outside = [] :=
    Run.trail_of_fault rfl
  have hbrief : team.Brief := Team.brief_unanswering (by decide)
  obtain ⟨hclaims, hthreads⟩ := @claim_after_history _ team id hteam hbrief { outside := {} }
    (by decide) rfl rfl
    [.perform "t-1" task, .perform "t-1" { task with instruction := "" }]
  obtain ⟨-, hclaim, -⟩ := hthreads "t-1"
  refine ⟨hclaims, stepped.watch false, ?_, ?_, rfl⟩
  · rw [hclaim]
    simp [history, leftBehind, Commission.thread, Commission.trail, Commission.serve, isOk_map,
      htrail, hfails, hnothing]
  · exact hsolved

end History

end Errand
