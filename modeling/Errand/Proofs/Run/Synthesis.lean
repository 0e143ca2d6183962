import Errand.Proofs.Run.Reachability

/-!
# The result that the solver is given

A run that is to be answered has carried out every step of its plan, so its results are made of the
ids of all steps and of all outputs (`Run.Sound`). The solver is given one of them.

Ids may be used more than once, and the empty id is an id like others. Results stand in the order of
the first uses of their ids, and the last entry is that of the id whose first use is the latest
(`exists_latestFirstUse`). What stands under an id is the output of its last use
(`lookup_zip_reverse`). From these two, `Run.reached_given` says which output each choice hands
over. There always is one, and the choices differ only if the last step uses an id again.
-/

set_option autoImplicit false

namespace Errand

variable {σ : Type}

/-! ### Uses of ids -/

/-- Whether an id is used at a position for the first time, and no id is later. -/
structure IsLatestFirstUse (ids : List String) (id : String) (position : Nat) : Prop where
  uses : ids[position]? = some id
  first : id ∉ ids.take position
  latest : ∀ later, position < later → ∀ other, ids[later]? = some other → other ∈ ids.take later

/-- Whether an id is used at a position and nowhere later. -/
structure IsLastUse (ids : List String) (id : String) (position : Nat) : Prop where
  uses : ids[position]? = some id
  last : ∀ later, position < later → ids[later]? ≠ some id

/-- One use more adds its id to the ids unless it is among them. -/
theorem eraseDups_append_singleton (ids : List String) (id : String) :
    (ids ++ [id]).eraseDups = if id ∈ ids then ids.eraseDups else ids.eraseDups ++ [id] := by
  by_cases hmem : id ∈ ids <;>
    simp [List.eraseDups_append, List.removeAll, List.eraseDups_cons, hmem]

/-- With one use more, an id is used where it was before, or at the end. -/
theorem use_of_append {ids : List String} {other id : String} {position : Nat}
    (h : (ids ++ [other])[position]? = some id) :
    position < ids.length ∧ ids[position]? = some id ∨ position = ids.length ∧ other = id := by
  by_cases hlt : position < ids.length
  · exact .inl ⟨hlt, by rwa [List.getElem?_append_left hlt] at h⟩
  · obtain ⟨hle, -⟩ := List.getElem?_eq_some_iff.mp h
    obtain rfl : position = ids.length := by simp at hle; omega
    exact .inr ⟨rfl, by simpa using h⟩

theorem IsLatestFirstUse.append {ids : List String} {id : String} {position : Nat}
    (h : IsLatestFirstUse ids id position) {other : String} (hother : other ∈ ids) :
    IsLatestFirstUse (ids ++ [other]) id position := by
  obtain ⟨hlt, -⟩ := List.getElem?_eq_some_iff.mp h.uses
  refine ⟨?_, ?_, fun later hlater next hnext ↦ ?_⟩
  · rw [List.getElem?_append_left hlt]
    exact h.uses
  · rw [List.take_append_of_le_length hlt.le]
    exact h.first
  · rcases use_of_append hnext with ⟨hend, hnext⟩ | ⟨rfl, rfl⟩
    · rw [List.take_append_of_le_length hend.le]
      exact h.latest later hlater next hnext
    · simpa using hother

/-- The last of the ids without repetitions is the one whose first use is the latest. The induction
is on the uses, from the first to the last. -/
theorem exists_latestFirstUse {ids : List String} (hids : ids ≠ []) :
    ∃ id position, IsLatestFirstUse ids id position ∧ ids.eraseDups.getLast? = some id := by
  induction ids using List.reverseRecOn with
  | nil => exact absurd rfl hids
  | append_singleton ids id ih =>
    rw [eraseDups_append_singleton]
    by_cases hmem : id ∈ ids
    · obtain ⟨other, position, hother, hlast⟩ := ih (List.ne_nil_of_mem hmem)
      exact ⟨other, position, hother.append hmem, by rw [if_pos hmem, hlast]⟩
    · refine ⟨id, ids.length, ⟨by simp, by simpa using hmem, fun later hlater other hother ↦ ?_⟩,
        by simp [hmem]⟩
      rcases use_of_append hother with ⟨hend, -⟩ | ⟨rfl, -⟩ <;> omega

theorem IsLastUse.append {ids : List String} {id : String} {position : Nat}
    (h : IsLastUse ids id position) {other : String} (hother : other ≠ id) :
    IsLastUse (ids ++ [other]) id position := by
  obtain ⟨hlt, -⟩ := List.getElem?_eq_some_iff.mp h.uses
  refine ⟨by rw [List.getElem?_append_left hlt]; exact h.uses, fun later hlater hid ↦ ?_⟩
  rcases use_of_append hid with ⟨-, hid⟩ | ⟨-, heq⟩
  · exact h.last later hlater hid
  · exact hother heq

/-- The last id is used at the end for the last time. -/
theorem IsLastUse.eq_length {ids : List String} {id : String} {position : Nat}
    (h : IsLastUse (ids ++ [id]) id position) : position = ids.length := by
  rcases use_of_append h.uses with ⟨hend, -⟩ | ⟨heq, -⟩
  · exact absurd (by simp) (h.last ids.length hend)
  · exact heq

/-- What is found under an id, from the last output to the first, is the output of its last use. -/
theorem lookup_zip_reverse {ids outputs : List String} (hlength : ids.length = outputs.length)
    {id : String} (hid : id ∈ ids) :
    ∃ position, IsLastUse ids id position ∧
      (ids.zip outputs).reverse.lookup id = outputs[position]? := by
  induction ids using List.reverseRecOn generalizing outputs with
  | nil => cases hid
  | append_singleton ids other ih =>
    obtain ⟨outputs, output, rfl⟩ : ∃ front last, outputs = front ++ [last] := by
      refine outputs.eq_nil_or_concat'.resolve_left ?_
      rintro rfl
      simp at hlength
    replace hlength : ids.length = outputs.length := by simpa using hlength
    rw [List.zip_append hlength]
    by_cases heq : id = other
    · subst heq
      refine ⟨ids.length, ⟨by simp, fun later hlater huse ↦ ?_⟩, by simp [hlength]⟩
      rcases use_of_append huse with ⟨hend, -⟩ | ⟨rfl, -⟩ <;> omega
    · have hmem : id ∈ ids := by simpa [heq] using hid
      obtain ⟨position, huse, hlookup⟩ := ih hlength hmem
      obtain ⟨hlt, -⟩ := List.getElem?_eq_some_iff.mp huse.uses
      refine ⟨position, huse.append (Ne.symm heq), ?_⟩
      rw [List.getElem?_append_left (hlength ▸ hlt), ← hlookup]
      simp [List.lookup_cons, beq_eq_false_iff_ne.mpr heq]

/-- The last entry is what stands under the last id. -/
theorem Results.last?_eq (results : Results) :
    results.last?.map (·.2) = (Entries.names results.entries).getLast?.bind results.get? := by
  rw [last?, Entries.names, List.getLast?_map]
  cases hlast : results.entries.getLast? with
  | none => rfl
  | some entry =>
    exact (Entries.lookup_of_mem results.nodup (List.mem_of_getLast? hlast)).symm

/-! ### What is given -/

namespace Run

/-- What the solver is asked for a run whose steps have been carried out. -/
def request (run : Run) (plan : Plan) (input : SolverInput) : SolverRequest :=
  SolverRequest.build run.task.instruction plan run.results input

/-- What the solver is given. -/
structure Given (run : Run) (plan : Plan) (outputs : List String) : Prop where
  /-- Every choice gives something. -/
  isSome : ∀ input, (run.request plan input).lastResult.isSome
  /-- The output of the last step. -/
  lastPlanStep : (run.request plan .lastPlanStep).lastResult = outputs.getLast?
  /-- The output of the last step with the id whose first use is the latest. -/
  lastInserted : ∃ id first last, IsLatestFirstUse (plan.steps.map (·.id)) id first ∧
    IsLastUse (plan.steps.map (·.id)) id last ∧
    (run.request plan .lastInserted).lastResult = outputs[last]?
  /-- The choices agree if no step before the last has its id. -/
  agree : (∀ last ∈ plan.steps.getLast?, last.id ∉ plan.steps.dropLast.map (·.id)) →
    (run.request plan .lastInserted).lastResult = (run.request plan .lastPlanStep).lastResult

/-- A run that can be reached has no plan without steps. -/
theorem Reached.steps_ne_nil {task : Task} {run : Run} {outputs : List String}
    (h : Reached task run outputs) : ∀ plan, run.plan = some plan → plan.steps ≠ [] := by
  induction h with
  | start => rintro plan ⟨⟩
  | @advance σ run outputs team scene _ ih =>
    rw [run_advance]
    rcases hturn : run.turn team scene.outside with ⟨_ | fault, next, after⟩
    · obtain ⟨answer, hsettles⟩ := settles_of_turn hturn
      cases hsettles with
      | planned plan _ hparse =>
        rintro _ ⟨⟩
        exact Plan.steps_ne_nil_of_parse hparse
      | stepped | solved => exact ih
    · have hkept := run_turn_of_fault (congrArg Prod.fst hturn)
      rw [hturn] at hkept
      rwa [hkept]

/-- The last step has given the last output, and that is what stands under its id. -/
theorem Sound.get?_last {run : Run} {outputs : List String} {front : List String} {id : String}
    (hsound : run.Sound outputs) (hids : run.doneIds = front ++ [id])
    (hlength : run.doneIds.length = outputs.length) :
    run.results.get? id = outputs.getLast? := by
  have hmem : id ∈ run.doneIds := by simp [hids]
  obtain ⟨position, huse, hlookup⟩ := lookup_zip_reverse hlength hmem
  rw [hids] at huse
  rw [hsound.get?_results, hlookup, huse.eq_length, List.getLast?_eq_getElem?, ← hlength, hids,
    List.length_append, List.length_singleton, Nat.add_sub_cancel]

/-- A run that is to be answered gives the solver a result. It is the output of the last step, or
that of the last step with the id that came into use latest. -/
theorem reached_given {task : Task} {run : Run} {outputs : List String}
    (h : Reached task run outputs) (hstage : run.stage = .solve) :
    ∃ plan, run.plan = some plan ∧ outputs.length = plan.size ∧ run.Given plan outputs ∧
      ∀ {σ : Type} (team : Team σ),
        run.inquiry team = .ok (.answer (run.request plan team.solverInput)) := by
  obtain ⟨plan, hplan, hcursor, -⟩ := h.sound.of_solve hstage
  have hids : run.doneIds = plan.steps.map (·.id) := by
    simp [doneIds, steps, hplan, hcursor, Plan.size]
  have hlength : outputs.length = plan.size := h.sound.length_outputs.trans hcursor
  have hdone : run.doneIds.length = outputs.length := by simp [hids, hlength, Plan.size]
  obtain ⟨front, step, hsteps⟩ :=
    plan.steps.eq_nil_or_concat'.resolve_left (h.steps_ne_nil plan hplan)
  have hend : run.doneIds = front.map (·.id) ++ [step.id] := by simp [hids, hsteps]
  have hlast : (run.request plan .lastPlanStep).lastResult = outputs.getLast? := by
    simp [request, SolverRequest.build, hsteps, h.sound.get?_last hend hdone]
  have hinserted : (run.request plan .lastInserted).lastResult =
      run.doneIds.eraseDups.getLast?.bind run.results.get? := by
    rw [← h.sound.names_results]
    exact run.results.last?_eq
  have hnonempty : run.doneIds ≠ [] := by simp [hend]
  obtain ⟨id, first, hfirst, hnewest⟩ := exists_latestFirstUse hnonempty
  obtain ⟨last, hlastUse, hlookup⟩ :=
    lookup_zip_reverse hdone (List.mem_of_getElem? hfirst.uses)
  have hgiven : (run.request plan .lastInserted).lastResult = outputs[last]? := by
    rw [hinserted, hnewest, Option.bind_some, h.sound.get?_results, hlookup]
  obtain ⟨hlt, -⟩ := List.getElem?_eq_some_iff.mp hlastUse.uses
  refine ⟨plan, hplan, hlength, ⟨?_, hlast, ?_, ?_⟩, fun team ↦ inquiry_solve team hstage hplan⟩
  · rintro (_ | _)
    · rw [hgiven, List.getElem?_eq_getElem (hdone ▸ hlt)]
      rfl
    · rw [hlast, List.getLast?_isSome]
      rintro rfl
      simp [hend] at hdone
  · rw [hids] at hfirst hlastUse
    exact ⟨id, first, last, hfirst, hlastUse, hgiven⟩
  · intro hfresh
    have hnew : step.id ∉ front.map (·.id) := by simpa [hsteps] using hfresh
    rw [hinserted, hlast, hend, eraseDups_append_singleton, if_neg hnew, List.getLast?_concat,
      Option.bind_some, h.sound.get?_last hend hdone]

end Run

/-- The first and the last step use one id, which is older than the one between them. The choices
hand over the outputs of the second and of the last step. -/
theorem Run.reached_given_repeated_id :
    let task : Task := { instruction := "t", actor := "u-1" }
    let team := Team.repeating "a #E2=LLM[\x7bx\x7d] b #E1=LLM[\x7by\x7d] c #E2=LLM[\x7bz\x7d]"
    let scene : Scene Unit := { outside := () }
    let first := (((start task).advance team scene).run.advance team scene).run
    let third := ((first.advance team scene).run.advance team scene).run
    let outputs := ["\"\x7bx\x7d\"", "\"\x7by\x7d\"", "\"\x7bz\x7d\""]
    Reached task third outputs ∧ third.stage = .solve ∧
      ∃ plan, third.plan = some plan ∧ third.Given plan outputs ∧
        (third.request plan .lastInserted).lastResult = some "\"\x7by\x7d\"" ∧
        (third.request plan .lastPlanStep).lastResult = some "\"\x7bz\x7d\"" := by
  intro task team scene first third outputs
  have hstart : Reached task (start task) [] := .start
  have hreached :=
    (((hstart.advance team scene).advance team scene).advance team scene).advance team scene
  have houtputs : [] ++ (outputNow team (start task) scene).toList ++
      (outputNow team ((start task).advance team scene).run scene).toList ++
      (outputNow team first scene).toList ++
      (outputNow team (first.advance team scene).run scene).toList = outputs := by
    decide +kernel
  have hstage : third.stage = .solve := by decide +kernel
  have hnewest : third.results.last?.map (·.2) = some "\"\x7by\x7d\"" := by decide +kernel
  rw [houtputs] at hreached
  obtain ⟨plan, hplan, -, hgiven, -⟩ := reached_given hreached hstage
  exact ⟨hreached, hstage, plan, hplan, hgiven, hnewest, hgiven.lastPlanStep⟩

end Errand
