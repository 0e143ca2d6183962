import Errand.Proofs.Run.Contest

/-!
# Resumptions exclude each other

Any number of requests to resume the run of one thread are served at the same time, in any order of
their calls, and nobody drives the run without a claim. `resume_exclusive` says that they do not get
into each other's way.

What carries it is where the latest run is, that is, what the first run has come to by all
transitions that have succeeded (`Course`). As long as nobody holds the claim, it is kept. Whoever
holds the claim drives it, so the next transition that succeeds is made from there, whoever makes it
(`Progress`): a step or an answer that is done is not done again.
-/

set_option autoImplicit false

namespace Errand

open Checkpoint.Store (busy)

variable {σ : Type}

/-! ### What is done of a run -/

namespace Run

/-- Whether a run has done what was due once. -/
def HasDone (run : Run) (due : Stage × Nat) : Prop :=
  due.1 = .tool ∧ due.2 < run.cursor ∨ due.1 = .solve ∧ run.stage = .done

variable {team : Team σ} {run other next : Run} {outside after : σ}

/-- Runs that differ at most in who watches. -/
def Alike (run other : Run) : Prop :=
  run.watch false = other.watch false

theorem Alike.watch_eq (h : run.Alike other) (watched : Bool) :
    run.watch watched = other.watch watched :=
  congrArg (·.watch watched) h

/-- What does not depend on who watches is the same for runs that are alike. -/
theorem Alike.congr {α : Type} (h : run.Alike other) (f : Run → α)
    (hf : ∀ run watched, f (run.watch watched) = f run) : f run = f other :=
  calc f run = f (run.watch false) := (hf run false).symm
    _ = f (other.watch false) := congrArg f h
    _ = f other := hf other false

theorem Alike.stage_eq (h : run.Alike other) : run.stage = other.stage :=
  h.congr stage fun _ _ ↦ rfl

theorem Alike.plan_eq (h : run.Alike other) : run.plan = other.plan :=
  h.congr plan fun _ _ ↦ rfl

theorem Alike.hasDone_eq (h : run.Alike other) (due : Stage × Nat) :
    run.HasDone due = other.HasDone due :=
  h.congr (·.HasDone due) fun _ _ ↦ rfl

theorem Keepable.of_alike (h : other.Keepable) (halike : run.Alike other) : run.Keepable := by
  have hwatch := h.watch false
  rw [← halike] at hwatch
  exact ⟨hwatch.stage, hwatch.fits⟩

theorem HasDone.ne_due {due : Stage × Nat} (h : run.HasDone due) (hdone : run.stage ≠ .done) :
    due ≠ run.due := by
  rintro rfl
  rcases h with ⟨hstage, hcursor⟩ | ⟨-, hstage⟩
  · have htool : run.stage = .tool := hstage
    simp [Run.due, htool] at hcursor
  · exact hdone hstage

theorem plan_of_turn (hstage : run.stage ≠ .plan)
    (hturn : run.turn team outside = (none, next, after)) : next.plan = run.plan := by
  obtain ⟨value, hsettles⟩ := settles_of_turn hturn
  cases hsettles with
  | planned _ hplanned _ => exact absurd hplanned hstage
  | stepped plan step _ _ _ => rfl
  | solved _ => rfl

/-- A transition does what is due. -/
theorem hasDone_of_turn (hstage : run.stage ≠ .plan)
    (hturn : run.turn team outside = (none, next, after)) : next.HasDone run.due := by
  obtain ⟨value, hsettles⟩ := settles_of_turn hturn
  cases hsettles with
  | planned _ hplanned _ => exact absurd hplanned hstage
  | stepped plan step htool _ _ =>
    left
    simp [due, htool, keepOutput]
  | solved hsolve => exact .inr ⟨hsolve, rfl⟩

/-- What is done stays done. -/
theorem HasDone.turn {due : Stage × Nat} (h : run.HasDone due) (hdone : run.stage ≠ .done)
    (hturn : run.turn team outside = (none, next, after)) : next.HasDone due := by
  rcases h with ⟨htool, hcursor⟩ | ⟨-, hstage⟩
  · refine .inl ⟨htool, ?_⟩
    obtain ⟨value, hsettles⟩ := settles_of_turn hturn
    cases hsettles with
    | planned _ _ _ => exact hcursor
    | stepped _ _ _ _ _ => exact Nat.lt_succ_of_lt hcursor
    | solved _ => exact hcursor
  · exact absurd hstage hdone

end Run

/-! ### The transitions that succeed -/

/-- How far a run has come from the first one by transitions, made by one contender or another. -/
structure Progress (first latest : Run) (successes : List Success) : Prop where
  ready : latest.stage = .done ∨ latest.Keepable
  plan : latest.plan = first.plan
  plans : ∀ success ∈ successes, success.before.plan = first.plan
  past : ∀ success ∈ successes, latest.HasDone success.before.due
  nodup : (successes.map (·.before.due)).Nodup

theorem Progress.begin {first : Run} (hfirst : first.Keepable) : Progress first first [] where
  ready := .inr hfirst
  plan := rfl
  plans := by simp
  past := by simp
  nodup := List.nodup_nil

/-- One more transition, of the run to which the others have come. -/
theorem Progress.advance {team : Team σ} {first latest run next : Run} {successes : List Success}
    {outside after : σ} (h : Progress first latest successes) (who : Nat)
    (halike : run.Alike latest) (hdone : run.stage ≠ .done)
    (hturn : run.turn team outside = (none, next, after)) :
    Progress first next (successes ++ [⟨who, run, next⟩]) := by
  have hlatest : latest.stage ≠ .done := halike.stage_eq ▸ hdone
  have hkeepable := h.ready.resolve_left hlatest
  have hstage : run.stage ≠ .plan := halike.stage_eq ▸ hkeepable.stage_ne_plan
  have hplan : run.plan = first.plan := halike.plan_eq.trans h.plan
  have hpast : ∀ success ∈ successes, run.HasDone success.before.due := fun success hsuccess ↦
    (halike.hasDone_eq _).mpr (h.past success hsuccess)
  refine ⟨?_, (Run.plan_of_turn hstage hturn).trans hplan, ?_, ?_, ?_⟩
  · exact Run.Ready.done_or_keepable (.inl (hkeepable.of_alike halike)) hturn
  · intro success hsuccess
    rcases List.mem_append.mp hsuccess with hearlier | hlast
    · exact h.plans success hearlier
    · rw [List.mem_singleton.mp hlast]
      exact hplan
  · intro success hsuccess
    rcases List.mem_append.mp hsuccess with hearlier | hlast
    · exact (hpast success hearlier).turn hdone hturn
    · rw [List.mem_singleton.mp hlast]
      exact Run.hasDone_of_turn hstage hturn
  · rw [List.map_append, List.nodup_append]
    refine ⟨h.nodup, List.nodup_singleton _, fun due hearlier other hother ↦ ?_⟩
    obtain ⟨success, hsuccess, rfl⟩ := List.mem_map.mp hearlier
    rw [List.mem_singleton.mp hother]
    exact (hpast success hsuccess).ne_due hdone

/-! ### The course of a contest -/

/-- Whether what is kept is what is left of the latest run. -/
def Settled (kept : Option Run) (latest : Run) : Prop :=
  kept.map (·.watch false) = latest.unfinished.map (·.watch false)

/-- Whether a contender that holds the claim is where it should be. -/
def Contender.At (kept : Option Run) (latest : Run) : Contender → Prop
  | .driving (.moving run _) => run.Alike latest ∧ Settled kept latest
  | .driving (.recording run _) => run.Alike latest
  | .driving (.releasing _) => latest.stage ≠ .done ∧ Settled kept latest
  | _ => True

/-- The course of a contest of contenders that claim the run before they drive it: whoever holds the
claim drives the latest run, and the latest run is kept unless it is about to be. -/
structure Course (first : Run) (contest : Contest σ) : Prop where
  resumes : ∀ contender ∈ contest.contenders, contender.Resumes
  held : ∀ contender ∈ contest.contenders, contender.holds →
    contender.At (contest.kept (some first)) (contest.latest first)
  free : contest.held = false → Settled (contest.kept (some first)) (contest.latest first)
  progress : Progress first (contest.latest first) contest.successes

section Course

variable {team : Team σ} {place : σ → Checkpoint.Store} {thread : String} {kept : Option Run}
variable {latest : Run} {contender next : Contender} {before after : Checkpoint.Store}

/-- What is kept is like the latest run, which is not done then. -/
theorem Settled.alike {run : Run} (h : Settled (some run) latest) :
    latest.stage ≠ .done ∧ run.Alike latest := by
  by_cases hdone : latest.stage = .done
  · simp [Settled, Run.unfinished_of_done hdone] at h
  · simp only [Settled, Run.unfinished_of_ne_done hdone, Option.map_some] at h
    exact ⟨hdone, Option.some.inj h⟩

theorem settled_unfinished {run : Run} (h : run.Alike latest) : Settled run.unfinished latest := by
  by_cases hdone : run.stage = .done
  · rw [Settled, Run.unfinished_of_done hdone, Run.unfinished_of_done (h.stage_eq ▸ hdone)]
  · rw [Settled, Run.unfinished_of_ne_done hdone, Run.unfinished_of_ne_done (h.stage_eq ▸ hdone)]
    exact congrArg some h

/-- Whoever is granted what is kept is granted the latest run. -/
theorem Settled.answered_eq (h : Settled kept latest) (watched : Bool) :
    Contender.answered watched (.ok kept) = Contender.answered watched (.ok latest.unfinished) := by
  cases kept with
  | none =>
    have hnone : latest.unfinished = none := by simpa [Settled] using h.symm
    rw [hnone]
  | some run =>
    obtain ⟨hdone, halike⟩ := h.alike
    rw [Run.unfinished_of_ne_done hdone, Contender.answered, Contender.answered, halike.watch_eq]

/-- A move of the contender that holds the claim: a transition that succeeds is made from the latest
run, and afterwards the contender is where it should be again, or has left what is kept as it should
be. -/
theorem Move.at_of_holds {first : Run} {successes : List Success}
    (h : Move team thread kept contender before next after) (who : Nat) (hholds : contender.holds)
    (hat : contender.At kept latest) (hprogress : Progress first latest successes) :
    let act : Act := ⟨who, contender, next⟩
    let kept' := act.recorded?.elim kept Run.unfinished
    let latest' := act.success?.elim latest Success.after
    Progress first latest' (successes ++ act.success?.toList) ∧
      (next.holds → next.At kept' latest') ∧ (next.holds = false → Settled kept' latest') := by
  have hsame : Progress first latest (successes ++ []) := by rwa [List.append_nil]
  cases h with
  | refused _ => cases hholds
  | missed _ _ => cases hholds
  | granted _ _ => cases hholds
  | finished hdone => simp [Run.isDone, hdone] at hholds
  | stopped hdone =>
    obtain ⟨halike, hsettled⟩ := hat
    exact ⟨hsame, fun _ ↦ ⟨halike.stage_eq ▸ hdone, hsettled⟩, fun hnot ↦ by cases hnot⟩
  | failed _ => cases hholds
  | @advanced _ run _ claimed _ _ hdone hturn =>
    have hclaimed : claimed = true := by simpa [Run.isDone, hdone] using hholds
    exact ⟨hprogress.advance who hat.1 hdone hturn, fun _ ↦ rfl,
      fun hnot ↦ by simp [hclaimed] at hnot⟩
  | recorded =>
    have hsettled := settled_unfinished hat
    exact ⟨hsame, fun _ ↦ ⟨hat, hsettled⟩, fun _ ↦ hsettled⟩
  | released => exact ⟨hsame, fun hnot ↦ (by cases hnot), fun _ ↦ hat.2⟩
  | rested => cases hholds

/-- A move of a contender that does not hold the claim. -/
theorem Move.idle (h : Move team thread kept contender before next after) (who : Nat)
    (hholds : contender.holds = false) (hresumes : contender.Resumes) :
    let act : Act := ⟨who, contender, next⟩
    act.recorded? = none ∧ act.success? = none ∧
      (next.holds → thread ∉ before.claims ∧ (Settled kept latest → next.At kept latest)) := by
  cases h with
  | refused _ => exact ⟨rfl, rfl, fun hnot ↦ by cases hnot⟩
  | missed _ _ => exact ⟨rfl, rfl, fun hnot ↦ by cases hnot⟩
  | granted hfree hkept =>
    refine ⟨rfl, rfl, fun _ ↦ ⟨hfree, fun hsettled ↦ ⟨?_, hsettled⟩⟩⟩
    rw [hkept] at hsettled
    exact hsettled.alike.2
  | finished _ => exact ⟨rfl, rfl, fun hnot ↦ by cases hnot⟩
  | stopped hdone => simp [Run.isDone, hdone] at hholds
  | failed _ => cases hresumes
  | advanced hdone _ => simp [Run.isDone, hdone, show _ = true from hresumes] at hholds
  | recorded => simp [show _ = true from hresumes] at hholds
  | released => cases hholds
  | rested => exact ⟨rfl, rfl, fun hnot ↦ by cases hnot⟩

theorem Contest.successes_concat (contest : Contest σ) (contenders : List Contender)
    (scene : Scene σ) (act : Act) :
    Contest.successes ⟨contenders, scene, contest.log ++ [act]⟩ =
      contest.successes ++ act.success?.toList := by
  cases hsuccess : act.success? <;> simp [Contest.successes, hsuccess]

theorem Contest.latest_concat (contest : Contest σ) (contenders : List Contender)
    (scene : Scene σ) (act : Act) (first : Run) :
    Contest.latest first ⟨contenders, scene, contest.log ++ [act]⟩ =
      act.success?.elim (contest.latest first) Success.after := by
  rw [Contest.latest, Contest.successes_concat]
  cases act.success? <;> simp [Contest.latest]

/-- Every act keeps a contest on its course. -/
theorem Course.act {first : Run} {contest : Contest σ} (hteam : team.KeepsIn place)
    (horder : Orderly team place thread (some first) contest) (h : Course first contest)
    (who : Nat) : Course first (contest.act team thread who) := by
  cases hwho : contest.contenders[who]? with
  | none => rwa [Contest.act, hwho]
  | some contender =>
    obtain ⟨next, scene, hact, hperm, hmove⟩ := horder.move hteam hwho
    have hmem : contender ∈ contest.contenders := List.mem_of_getElem? hwho
    have hothers (other : Contender) (hother : other ∈ contest.contenders.eraseIdx who) :
        other ∈ contest.contenders :=
      (perm_of_getElem? hwho).mem_iff.mpr (List.mem_cons_of_mem _ hother)
    have hcases (other : Contender) (hother : other ∈ contest.contenders.set who next) :
        other = next ∨ other ∈ contest.contenders.eraseIdx who :=
      List.mem_cons.mp (hperm.mem_iff.mp hother)
    have hresumes : ∀ other ∈ contest.contenders.set who next, other.Resumes := by
      intro other hother
      rcases hcases other hother with rfl | hother
      · exact hmove.resumes (h.resumes contender hmem)
      · exact h.resumes other (hothers other hother)
    have hmine : next ∈ contest.contenders.set who next := hperm.mem_iff.mpr List.mem_cons_self
    rw [hact]
    cases hholds : contender.holds with
    | true =>
      have hat := h.held contender hmem hholds
      obtain ⟨hprogress, hnext, hsettled⟩ := hmove.at_of_holds who hholds hat h.progress
      refine ⟨hresumes, fun other hother hclaim ↦ ?_, fun hfree ↦ ?_, ?_⟩
      · rw [Contest.kept_concat, Contest.latest_concat]
        rcases hcases other hother with rfl | hother
        · exact hnext hclaim
        · simp [horder.others hwho hholds other hother] at hclaim
      · rw [Contest.kept_concat, Contest.latest_concat]
        exact hsettled (Contest.held_eq_false.mp hfree next hmine)
      · rw [Contest.latest_concat, Contest.successes_concat]
        exact hprogress
    | false =>
      obtain ⟨hrecorded, hsuccess, hnext⟩ := hmove.idle who hholds (h.resumes contender hmem)
      have hkept : Contest.kept (some first) ⟨contest.contenders.set who next, scene,
          contest.log ++ [⟨who, contender, next⟩]⟩ = contest.kept (some first) := by
        rw [Contest.kept_concat, hrecorded, Option.elim]
      have hlatest : Contest.latest first ⟨contest.contenders.set who next, scene,
          contest.log ++ [⟨who, contender, next⟩]⟩ = contest.latest first := by
        rw [Contest.latest_concat, hsuccess, Option.elim]
      refine ⟨hresumes, fun other hother hclaim ↦ ?_, fun hfree ↦ ?_, ?_⟩
      · rw [hkept, hlatest]
        rcases hcases other hother with rfl | hother
        · obtain ⟨hunclaimed, hat⟩ := hnext hclaim
          exact hat (h.free (by simpa [horder.mem_claims_iff] using hunclaimed))
        · exact h.held other (hothers other hother) hclaim
      · rw [hkept, hlatest]
        refine h.free (Contest.held_eq_false.mpr fun other hother ↦ ?_)
        rcases List.mem_cons.mp ((perm_of_getElem? hwho).mem_iff.mp hother) with rfl | hother
        · exact hholds
        · exact Contest.held_eq_false.mp hfree other
            (hperm.mem_iff.mpr (List.mem_cons_of_mem _ hother))
      · rw [hlatest, Contest.successes_concat, hsuccess, Option.toList, List.append_nil]
        exact h.progress

theorem Course.begin {first : Run} (hfirst : first.Keepable) (watches : List Bool)
    (scene : Scene σ) : Course first ⟨watches.map .waiting, scene, []⟩ where
  resumes := List.forall_mem_map.mpr fun _ _ ↦ trivial
  held := List.forall_mem_map.mpr fun _ _ hholds ↦ by cases hholds
  free _ := congrArg (Option.map _) (Run.unfinished_of_ne_done hfirst.stage_ne_done).symm
  progress := .begin hfirst

/-- What comes of a claim in a contest on its course. -/
theorem Course.act_waiting {first : Run} {contest : Contest σ} (hteam : team.KeepsIn place)
    (horder : Orderly team place thread (some first) contest) (h : Course first contest)
    (watched : Bool) :
    ((Contender.waiting watched).act team thread contest.scene).1 =
      if contest.held then .ended (.error (.checkpoint (busy thread)))
      else Contender.answered watched (.ok (contest.latest first).unfinished) := by
  rw [horder.act_waiting hteam]
  cases hheld : contest.held with
  | true => rfl
  | false => simp only [(h.free hheld).answered_eq watched]

/-- Every schedule keeps a contest orderly and on its course. -/
theorem Course.play {first : Run} {contest : Contest σ} (hteam : team.KeepsIn place)
    (schedule : List Nat) (horder : Orderly team place thread (some first) contest)
    (h : Course first contest) :
    Orderly team place thread (some first) (contest.play team thread schedule) ∧
      Course first (contest.play team thread schedule) := by
  induction schedule generalizing contest with
  | nil => exact ⟨horder, h⟩
  | cons who rest ih =>
    refine ih (horder.act hteam who fun run hrun _ ↦ ?_) (h.act hteam horder who)
    cases h.resumes _ (List.mem_of_getElem? hrun)

/-- A contender that holds the claim and ends with a fault gives the claim back. -/
theorem Move.of_fault {fault : RunFault} (h : Move team thread kept contender before
    (.ended (.error fault)) after) (hholds : contender.holds) :
    contender = .driving (.releasing fault) := by
  cases h with
  | refused _ => cases hholds
  | failed _ => cases hholds
  | released => rfl
  | rested => cases hholds

/-- Once the contender that held the claim has ended with a fault, nobody holds it, and whoever
claims the run next is granted the latest one. -/
theorem Course.act_waiting_of_fault {first : Run} {contest : Contest σ} (hteam : team.KeepsIn place)
    (horder : Orderly team place thread (some first) contest) (h : Course first contest) {who : Nat}
    (hwho : contest.contenders[who]? = some contender) (hholds : contender.holds)
    {fault : RunFault} (hended : (contest.act team thread who).contenders[who]? =
      some (.ended (.error fault))) :
    (contest.act team thread who).held = false ∧ ∀ watched,
      ((Contender.waiting watched).act team thread (contest.act team thread who).scene).1 =
        .driving (.moving ((contest.latest first).watch watched) true) := by
  obtain ⟨next, scene, hact, hperm, hmove⟩ := horder.move hteam hwho
  obtain ⟨hlt, -⟩ := List.getElem?_eq_some_iff.mp hwho
  obtain rfl : next = .ended (.error fault) := by simpa [hact, hlt] using hended
  obtain rfl := hmove.of_fault hholds
  obtain ⟨hgoes, -⟩ := h.held _ (List.mem_of_getElem? hwho) rfl
  have hlatest : (contest.act team thread who).latest first = contest.latest first := by
    rw [hact, Contest.latest_concat]
    rfl
  have hfree : (contest.act team thread who).held = false := by
    rw [hact]
    refine Contest.held_eq_false.mpr fun other hother ↦ ?_
    rcases List.mem_cons.mp (hperm.mem_iff.mp hother) with rfl | hother
    · rfl
    · exact horder.others hwho hholds other hother
  have horder' := horder.act hteam who fun run hrun _ ↦ by simp [hwho] at hrun
  refine ⟨hfree, fun watched ↦ ?_⟩
  rw [(h.act hteam horder who).act_waiting hteam horder', hfree, hlatest,
    Run.unfinished_of_ne_done hgoes]
  rfl

end Course

/-- A run is kept for a thread that nobody has claimed, and requests to resume it act in any order.
Then one of them holds the claim at most, and only as long as one does is the thread claimed. No
step and no answer is done twice, and all steps are steps of the one plan. Whoever asks for the run
is refused as long as a request holds the claim; otherwise it is granted the run that the last
successful transition has left, or finds nothing if that run is done. A request that holds the claim
drives that same run, and once it has ended with a fault the run may be claimed again. -/
theorem resume_exclusive {team : Team σ} {place : σ → Checkpoint.Store} {thread : String}
    (hteam : team.KeepsIn place) {first : Run} (hfirst : first.Keepable) {scene : Scene σ}
    (hroomy : (place scene.outside).limits.roomy)
    (hkept : (place scene.outside).kept.lookup thread = some first.write)
    (hfree : thread ∉ (place scene.outside).claims) (watches : List Bool) (schedule : List Nat) :
    let contest := Contest.play team thread schedule ⟨watches.map .waiting, scene, []⟩
    let latest := contest.latest first
    contest.contenders.countP Contender.holds ≤ 1 ∧
      (thread ∈ (place contest.scene.outside).claims ↔ contest.held) ∧
      (contest.successes.map (·.before.due)).Nodup ∧
      (∀ success ∈ contest.successes, success.before.plan = first.plan) ∧
      (∀ watched, ((Contender.waiting watched).act team thread contest.scene).1 =
        if contest.held then .ended (.error (.checkpoint (busy thread)))
        else Contender.answered watched (.ok latest.unfinished)) ∧
      (∀ run claimed, .driving (.moving run claimed) ∈ contest.contenders → run.stage ≠ .done →
        run.Alike latest) ∧
      ∀ who holder fault, contest.contenders[who]? = some holder → holder.holds →
        let freed := contest.act team thread who
        freed.contenders[who]? = some (.ended (.error fault)) →
          freed.held = false ∧ ∀ watched,
            ((Contender.waiting watched).act team thread freed.scene).1 =
              .driving (.moving (latest.watch watched) true) := by
  intro contest latest
  have hbegin : Orderly team place thread (some first) ⟨watches.map .waiting, scene, []⟩ :=
    .begin hroomy hfree hkept (by simpa using hfirst)
      (List.forall_mem_map.mpr fun _ _ ↦ rfl) (List.forall_mem_map.mpr fun _ _ ↦ trivial)
  obtain ⟨hplayed, hrun⟩ := (Course.begin hfirst watches scene).play hteam schedule hbegin
  refine ⟨?_, hplayed.mem_claims_iff, hrun.progress.nodup, hrun.progress.plans,
    hrun.act_waiting hteam hplayed, fun run claimed hmem hdone ↦ ?_, ?_⟩
  · rw [hplayed.holders]
    split <;> decide
  · obtain rfl : claimed = true := hrun.resumes _ hmem
    exact (hrun.held _ hmem (by simp [Run.isDone, hdone])).1
  · intro who holder fault hwho hholds freed hended
    exact hrun.act_waiting_of_fault hteam hplayed hwho hholds hended

/-- Two requests for a run whose only step is due: the first is granted it, the second refused. -/
theorem resume_exclusive_two_requests :
    let plan : Plan := ⟨[⟨"a", "#E1", "LLM", "\x7bx\x7d"⟩], "a #E1=LLM[\x7bx\x7d]"⟩
    let run : Run := { task := { instruction := "t", actor := "u-1" }, stage := .tool, plan }
    let team := Team.unanswering plan.rawText
    let scene : Scene Checkpoint.Store := { outside := ({} : Checkpoint.Store).save "t-1" run }
    let contest : Contest Checkpoint.Store := ⟨[.waiting true, .waiting false], scene, []⟩
    let claimed := contest.play team "t-1" [0]
    claimed.contenders[0]? = some (.driving (.moving (run.watch true) true)) ∧
      ((Contender.waiting false).act team "t-1" claimed.scene).1 =
        .ended (.error (.checkpoint (busy "t-1"))) := by
  intro plan run team scene contest claimed
  have hrun : run.Keepable := ⟨.inl rfl, plan, rfl, by decide, by decide⟩
  have hroomy : ({} : Checkpoint.Store).limits.roomy := by decide
  have hexclusive := @resume_exclusive _ team id "t-1" (Team.keepsIn_unanswering plan.rawText) run
    hrun scene hroomy (Checkpoint.Store.lookup_save hroomy "t-1" run) (by simp [scene])
    [true, false]
  have hgranted : ((Contender.waiting true).act team "t-1" scene).1 =
      .driving (.moving (run.watch true) true) := by
    obtain ⟨-, -, -, -, hanswer, -⟩ := hexclusive []
    exact (hanswer true).trans (if_neg (by decide))
  rcases hclaim : (Contender.waiting true).act team "t-1" scene with ⟨holder, after⟩
  rw [hclaim] at hgranted
  obtain rfl := hgranted
  have hclaimed : claimed = ⟨[.driving (.moving (run.watch true) true), .waiting false], after,
      [⟨0, .waiting true, .driving (.moving (run.watch true) true)⟩]⟩ := by
    rw [show claimed = contest.play team "t-1" [0] from rfl, Contest.play_cons, Contest.play_nil]
    exact Contest.act_of_getElem? rfl hclaim
  have hheld : claimed.held := by
    rw [hclaimed]
    rfl
  obtain ⟨-, -, -, -, hanswer, -⟩ := hexclusive [0]
  exact ⟨by rw [hclaimed]; rfl, (hanswer false).trans (if_pos hheld)⟩

end Errand
