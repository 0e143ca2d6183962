import Errand.Proofs.Run.Contest

/-!
# Requests to resume a run that goes on

Whoever drives the run of a new task does not claim it. So from the moment that the run is kept for
the first time, a request to resume it is granted it although it goes on, and the two carry out the
same steps (`step_done_twice`). The claim keeps out other requests only: `resume_beside_run` says
that as long as the run goes on, a request is granted whatever was kept last, unless another request
holds the claim.

Once the run has been recorded as done even that is lost, since the claim of whoever holds it is
removed then. So a contest stays `Attended` until the first contender has nothing to do any more
(`Attended.act`).
-/

set_option autoImplicit false

namespace Errand

open Checkpoint.Store (busy)
open Scripted (lookup_kept mem_claims_kept)

variable {σ : Type}

namespace Contender

/-- Whether a contender drives a run without a claim. -/
def Performs : Contender → Prop
  | .driving (.moving _ claimed) => claimed = false
  | .driving (.recording _ claimed) => claimed = false
  | _ => False

/-- Whether there is nothing left of the run of a contender but to say how it ended. -/
def Past : Contender → Prop
  | .driving (.moving run _) => run.stage = .done
  | .ended _ => True
  | _ => False

theorem Past.act {team : Team σ} {thread : String} {contender : Contender} {scene : Scene σ}
    (h : contender.Past) : (contender.act team thread scene).1.Past := by
  match contender with
  | .driving (.moving run _) =>
    simp only [Contender.act, Journey.next_of_done scene h]
    trivial
  | .ended _ => trivial

theorem Past.underWay {contender : Contender} (h : contender.Past) :
    contender.underWay = false := by
  match contender with
  | .driving (.moving run _) =>
    have hdone : run.stage = .done := h
    simp [Contender.underWay, Run.isDone, hdone]
  | .ended _ => rfl

end Contender

section Move

variable {team : Team σ} {thread : String} {kept : Option Run}
variable {contender next : Contender} {before after : Checkpoint.Store}

/-- Whoever drives a run without a claim goes on like that, or the run is past. -/
theorem Move.performs (h : Move team thread kept contender before next after)
    (hperforms : contender.Performs) : next.Performs ∨ next.Past := by
  cases h with
  | finished _ => exact .inr trivial
  | stopped _ => cases hperforms
  | failed _ => exact .inr trivial
  | advanced _ _ => exact .inl hperforms
  | recorded => exact .inl hperforms
  | refused _ => cases hperforms
  | missed _ _ => cases hperforms
  | granted _ _ => cases hperforms
  | released => cases hperforms
  | rested => cases hperforms

/-- Once a run has been recorded as done, it is past. -/
theorem Move.past_of_recording {run : Run} {claimed : Bool}
    (h : Move team thread kept (.driving (.recording run claimed)) before next after)
    (hdone : run.stage = .done) : next.Past := by
  cases h with
  | recorded => exact hdone

/-- Whoever holds the claim after a move held it before, or a run was kept. -/
theorem Move.holds_or_kept (h : Move team thread kept contender before next after)
    (hholds : next.holds) : contender.holds ∨ kept.isSome := by
  cases h with
  | granted _ hkept => exact .inr (by simp [hkept])
  | stopped hdone => exact .inl (by simp [Run.isDone, hdone])
  | advanced hdone _ => exact .inl (by simpa [Run.isDone, hdone] using hholds)
  | recorded =>
    rw [Contender.holds_moving, Bool.and_eq_true] at hholds
    exact .inl (by simpa using hholds.1)
  | _ => cases hholds

end Move

/-- A contest whose first contender drives a run without a claim, while the others claim it. As long
as nothing has been recorded, nobody has been granted a claim, unless a run was kept at first. -/
structure Attended (team : Team σ) (place : σ → Checkpoint.Store) (thread : String)
    (initial : Option Run) (contest : Contest σ) : Prop where
  performs : ∀ runner, contest.contenders[0]? = some runner → runner.Performs
  resumes : ∀ who contender, contest.contenders[who + 1]? = some contender → contender.Resumes
  order : Orderly team place thread initial contest
  quiet : initial = none → contest.records = [] → contest.held = false

/-- A contest whose first contender has nothing to do any more. -/
def Contest.Abandoned (contest : Contest σ) : Prop :=
  ∀ runner, contest.contenders[0]? = some runner → runner.Past

section Attended

variable {team : Team σ} {place : σ → Checkpoint.Store} {thread : String} {initial : Option Run}
variable {contest : Contest σ}

theorem Contest.Abandoned.act (h : contest.Abandoned) (who : Nat) :
    (contest.act team thread who).Abandoned := by
  cases hwho : contest.contenders[who]? with
  | none => rwa [Contest.act, hwho]
  | some contender =>
    intro runner hrunner
    simp only [Contest.act, hwho, List.getElem?_set] at hrunner
    split at hrunner
    · next hfirst =>
      subst hfirst
      split at hrunner
      · obtain rfl := Option.some.inj hrunner
        exact (h contender hwho).act
      · cases hrunner
    · exact h runner hrunner

/-- An act keeps a contest attended, or nothing is left to do for the first contender after it. -/
theorem Attended.act (hteam : team.KeepsIn place) (h : Attended team place thread initial contest)
    (who : Nat) :
    Attended team place thread initial (contest.act team thread who) ∨
      (contest.act team thread who).Abandoned := by
  cases hwho : contest.contenders[who]? with
  | none => exact .inl (by rwa [Contest.act, hwho])
  | some contender =>
    obtain ⟨next, scene, hact, hperm, hmove⟩ := h.order.move hteam hwho
    obtain ⟨hlt, -⟩ := List.getElem?_eq_some_iff.mp hwho
    have hquiet : initial = none → (contest.act team thread who).records = [] →
        (contest.act team thread who).held = false := by
      rw [hact, Contest.records_concat]
      intro hinitial hrecords
      obtain ⟨hnothing, -⟩ := List.append_eq_nil_iff.mp hrecords
      have hfree := Contest.held_eq_false.mp (h.quiet hinitial hnothing)
      refine Contest.held_eq_false.mpr fun other hother ↦ ?_
      rcases List.mem_cons.mp (hperm.mem_iff.mp hother) with rfl | hother
      · by_contra hholds
        rcases hmove.holds_or_kept (by simpa using hholds) with hheld | hkept
        · simp [hfree contender (List.mem_of_getElem? hwho)] at hheld
        · simp [Contest.kept, hnothing, hinitial] at hkept
      · exact hfree other ((perm_of_getElem? hwho).mem_iff.mpr (List.mem_cons_of_mem _ hother))
    cases who with
    | zero =>
      by_cases hpast : next.Past
      · right
        intro runner hrunner
        obtain rfl : next = runner := by simpa [hact, hlt] using hrunner
        exact hpast
      · left
        refine ⟨fun runner hrunner ↦ ?_, fun who other hother ↦ ?_, ?_, hquiet⟩
        · obtain rfl : next = runner := by simpa [hact, hlt] using hrunner
          exact (hmove.performs (h.performs contender hwho)).resolve_right hpast
        · exact h.resumes who other (by simpa [hact] using hother)
        · refine h.order.act hteam 0 fun run hrun hdone ↦ absurd ?_ hpast
          obtain rfl := Option.some.inj (hwho.symm.trans hrun)
          exact hmove.past_of_recording hdone
    | succ who =>
      left
      have hresumes := h.resumes who contender hwho
      refine ⟨fun runner hrunner ↦ ?_, fun place other hother ↦ ?_, ?_, hquiet⟩
      · exact h.performs runner (by simpa [hact] using hrunner)
      · rw [hact] at hother
        simp only [List.getElem?_set] at hother
        split at hother
        · obtain rfl := Option.some.inj hother
          exact hmove.resumes hresumes
        · exact h.resumes place other hother
      · refine h.order.act hteam _ fun run hrun _ ↦ ?_
        obtain rfl := Option.some.inj (hwho.symm.trans hrun)
        cases hresumes

/-- Every schedule keeps a contest attended, or nothing is left to do for the first contender. -/
theorem Attended.play (hteam : team.KeepsIn place) (schedule : List Nat)
    (h : Attended team place thread initial contest ∨ contest.Abandoned) :
    Attended team place thread initial (contest.play team thread schedule) ∨
      (contest.play team thread schedule).Abandoned := by
  induction schedule generalizing contest with
  | nil => exact h
  | cons who rest ih =>
    refine ih ?_
    rcases h with h | h
    · exact h.act hteam who
    · exact .inr (h.act who)

/-- A contender makes a transition and keeps the run, and nobody else acts meanwhile. -/
theorem Contest.play_turn (hteam : team.KeepsIn place) {who : Nat} {run next : Run} {after : σ}
    {claimed : Bool} (hwho : contest.contenders[who]? = some (.driving (.moving run claimed)))
    (hdone : run.stage ≠ .done)
    (hturn : run.turn team contest.scene.outside = (none, next, after)) :
    ∃ last, contest.play team thread [who, who] =
        ⟨contest.contenders.set who (.driving (.moving next claimed)), last,
          contest.log ++ [⟨who, .driving (.moving run claimed), .driving (.recording next claimed)⟩,
            ⟨who, .driving (.recording next claimed), .driving (.moving next claimed)⟩]⟩ ∧
      place last.outside = Scripted.kept thread next (place contest.scene.outside) := by
  obtain ⟨hlt, -⟩ := List.getElem?_eq_some_iff.mp hwho
  obtain ⟨moved, hmove, hmoved⟩ := Contender.act_of_turn thread claimed hdone hturn
  obtain ⟨between, hkeep, hplace⟩ := hteam.keep thread next moved.outside
  obtain ⟨last, hrecord, hlast⟩ := Contender.act_of_keep claimed hkeep
  have hstay := hteam.turn run contest.scene.outside
  rw [hturn, ← hmoved] at hstay
  refine ⟨last, ?_, ?_⟩
  · rw [Contest.play_cons, Contest.play_cons, Contest.play_nil, Contest.act_of_getElem? hwho hmove,
      Contest.act_of_getElem? (List.getElem?_set_self hlt) hrecord]
    simp
  · rw [hlast, hplace, hstay]

/-- A run of a new task is driven for a thread that nobody has claimed, while requests to resume the
run of that thread act in any order. As long as the run goes on, one request holds the claim at
most, and none does before the run has been recorded for the first time, unless a run was kept
before. But that the run goes on does not matter for what is granted: whoever asks is refused if a
request holds the claim, and otherwise it is granted the run that was recorded last, unless that is
done. -/
theorem resume_beside_run (hteam : team.KeepsIn place) (hbrief : team.Brief) {scene : Scene σ}
    (hroomy : (place scene.outside).limits.roomy)
    (hkept : (place scene.outside).kept.lookup thread = initial.map Run.write)
    (hkeepable : ∀ run ∈ initial, run.Keepable)
    (hfree : thread ∉ (place scene.outside).claims) (task : Task) (watches : List Bool)
    (schedule : List Nat) :
    let contest := Contest.play team thread schedule
      ⟨.driving (.moving (.start task) false) :: watches.map .waiting, scene, []⟩
    ∀ runner, contest.contenders[0]? = some runner → runner.underWay →
      contest.contenders.countP Contender.holds ≤ 1 ∧
        (initial = none → contest.records = [] → contest.held = false) ∧
        ∀ watched, ((Contender.waiting watched).act team thread contest.scene).1 =
          if contest.held then .ended (.error (.checkpoint (busy thread)))
          else Contender.answered watched (.ok (contest.kept initial)) := by
  intro contest runner hrunner hgoes
  have hholds : ∀ contender ∈ Contender.driving (.moving (.start task) false) ::
      watches.map Contender.waiting, contender.holds = false :=
    List.forall_mem_cons.mpr ⟨rfl, List.forall_mem_map.mpr fun _ _ ↦ rfl⟩
  have hbegin : Attended team place thread initial
      ⟨.driving (.moving (.start task) false) :: watches.map .waiting, scene, []⟩ := by
    refine ⟨fun runner hrunner ↦ ?_, fun who contender hcontender ↦ ?_, ?_, fun _ _ ↦ ?_⟩
    · obtain rfl := Option.some.inj hrunner
      rfl
    · obtain ⟨watched, -, rfl⟩ := List.mem_map.mp (List.mem_of_getElem? hcontender)
      trivial
    · refine .begin hroomy hfree hkept hkeepable hholds (List.forall_mem_cons.mpr ⟨?_, ?_⟩)
      · exact .inr (.inr ⟨Run.fresh_start task, hbrief⟩)
      · exact List.forall_mem_map.mpr fun _ _ ↦ trivial
    · exact Contest.held_eq_false.mpr hholds
  rcases Attended.play hteam schedule (.inl hbegin) with hplayed | hpast
  · refine ⟨?_, hplayed.quiet, hplayed.order.act_waiting hteam⟩
    rw [hplayed.order.holders]
    split <;> decide
  · simp [(hpast runner hrunner).underWay] at hgoes

/-- A plan has been made and kept. A request to resume the run is granted it although it goes on. -/
theorem resume_beside_run_planned :
    let text := "a #E1=LLM[\x7bx\x7d]"
    let team := Team.unanswering text
    let task : Task := { instruction := "t", actor := "u-1" }
    let contest := Contest.play team "t-1" [0, 0]
      ⟨[.driving (.moving (.start task) false), .waiting true], { outside := {} }, []⟩
    ∃ run, run.stage = .tool ∧
      contest.contenders[0]? = some (.driving (.moving run false)) ∧
      ((Contender.waiting true).act team "t-1" contest.scene).1 =
        .driving (.moving (run.watch true) true) := by
  intro text team task contest
  let plan : Plan := ⟨[⟨"a", "#E1", "LLM", "\x7bx\x7d"⟩], text⟩
  let planned : Run := { Run.start task with plan := some plan, stage := .tool }
  have hparse : Plan.parse text = .ok plan := Plan.parse_of_toOption (by decide +kernel)
  have hplan : (Run.start task).turn team {} = (none, planned, {}) := Run.turn_start rfl hparse
  have hteam : team.KeepsIn id := Team.keepsIn_unanswering text
  have hbrief : team.Brief := Team.brief_unanswering (by decide)
  obtain ⟨scene, hplay, -⟩ := @Contest.play_turn _ team id "t-1"
    ⟨[.driving (.moving (.start task) false), .waiting true], { outside := {} }, []⟩ hteam 0 _ _ _ _
    rfl (by simp [Run.start]) hplan
  have hfirst : contest.contenders[0]? = some (.driving (.moving planned false)) := by
    rw [show contest = _ from hplay]
    rfl
  obtain ⟨-, -, hanswer⟩ := @resume_beside_run _ team id "t-1" none hteam hbrief { outside := {} }
    (by decide) rfl (by simp) (by simp) task [true] [0, 0] _ hfirst (by rfl)
  refine ⟨planned, rfl, hfirst, (hanswer true).trans ?_⟩
  change (if contest.held then _ else Contender.answered true (.ok (contest.kept none))) = _
  rw [show contest = _ from hplay]
  rfl

/-- A run goes on while a request to resume it is granted it. Both carry out its first step. -/
theorem step_done_twice :
    let text := "a #E1=LLM[\x7bx\x7d]"
    let team := Team.unanswering text
    let task : Task := { instruction := "t", actor := "u-1" }
    let contest : Contest Checkpoint.Store :=
      ⟨[.driving (.moving (.start task) false), .waiting false], { outside := {} }, []⟩
    (∃ run, run.stage = .tool ∧ (contest.play team "t-1" [0, 0, 1]).contenders =
        [.driving (.moving run false), .driving (.moving run true)]) ∧
      (contest.play team "t-1" [0, 0, 1, 0, 1]).successes.map
          (fun success ↦ (success.who, success.before.due)) =
        [(0, .plan, 0), (0, .tool, 0), (1, .tool, 0)] := by
  intro text team task contest
  let step : Step := ⟨"a", "#E1", "LLM", "\x7bx\x7d"⟩
  let plan : Plan := ⟨[step], text⟩
  let planned : Run := { Run.start task with plan := some plan, stage := .tool }
  let stepped := planned.keepOutput plan step (Step.output (.str "yes"))
  have hparse : Plan.parse text = .ok plan := Plan.parse_of_toOption (by decide +kernel)
  have hplan : (Run.start task).turn team {} = (none, planned, {}) := Run.turn_start rfl hparse
  have hstep (store : Checkpoint.Store) : planned.turn team store = (none, stepped, store) := rfl
  have hgoes : planned.stage ≠ .done := by simp [planned]
  have hteam : team.KeepsIn id := Team.keepsIn_unanswering text
  let planning : Contender := .driving (.recording planned false)
  let going (claimed : Bool) : Contender := .driving (.moving planned claimed)
  let stepping (claimed : Bool) : Contender := .driving (.recording stepped claimed)
  let log : List Act :=
    [⟨0, .driving (.moving (.start task) false), planning⟩, ⟨0, planning, going false⟩]
  obtain ⟨kept, hkept, hplace⟩ : ∃ kept,
      contest.play team "t-1" [0, 0] = ⟨[going false, .waiting false], kept, log⟩ ∧
        id kept.outside = Scripted.kept "t-1" planned {} :=
    Contest.play_turn hteam rfl (by simp [Run.start]) hplan
  have hlookup : (id kept.outside : Checkpoint.Store).kept.lookup "t-1" = some planned.write := by
    rw [hplace, lookup_kept (by decide), Run.unfinished_of_ne_done hgoes]
    rfl
  have hfree : "t-1" ∉ (id kept.outside : Checkpoint.Store).claims := by
    rw [hplace, mem_claims_kept]
    simp
  have hkeepable : planned.Keepable := ⟨.inl rfl, plan, rfl, by decide, by decide⟩
  have hclaim := @Contender.move_act _ team id "t-1" (some planned) hteam kept hlookup
    (by simpa using hkeepable) (.waiting false)
  have hgranted : ((Contender.waiting false).act team "t-1" kept).1 = going true :=
    hclaim.of_waiting.trans (if_neg hfree)
  rcases hacted : (Contender.waiting false).act team "t-1" kept with ⟨holder, claimed⟩
  rw [hacted] at hgranted
  obtain rfl := hgranted
  obtain ⟨moved, hmoved, -⟩ := Contender.act_of_turn "t-1" false hgoes (hstep claimed.outside)
  obtain ⟨last, hlast, -⟩ := Contender.act_of_turn "t-1" true hgoes (hstep moved.outside)
  let log' : List Act := log ++ [⟨1, .waiting false, going true⟩]
  have hclaimed : contest.play team "t-1" [0, 0, 1] =
      ⟨[going false, going true], claimed, log'⟩ := by
    rw [show [0, 0, 1] = [0, 0] ++ [1] from rfl, Contest.play_append, hkept, Contest.play_cons,
      Contest.play_nil]
    exact Contest.act_of_getElem? rfl hacted
  have hstepped : contest.play team "t-1" [0, 0, 1, 0, 1] =
      ⟨[stepping false, stepping true], last,
        log' ++ [⟨0, going false, stepping false⟩] ++ [⟨1, going true, stepping true⟩]⟩ := by
    rw [show [0, 0, 1, 0, 1] = [0, 0, 1] ++ [0, 1] from rfl, Contest.play_append, hclaimed,
      Contest.play_cons, Contest.play_cons, Contest.play_nil]
    calc Contest.act team "t-1"
          (Contest.act team "t-1" ⟨[going false, going true], claimed, log'⟩ 0) 1
        = Contest.act team "t-1" ⟨[stepping false, going true], moved,
            log' ++ [⟨0, going false, stepping false⟩]⟩ 1 :=
          congrArg (Contest.act team "t-1" · 1) (Contest.act_of_getElem? rfl hmoved)
      _ = _ := Contest.act_of_getElem? rfl hlast
  rw [hclaimed, hstepped]
  exact ⟨⟨planned, rfl, rfl⟩, rfl⟩

end Attended

end Errand
