import Errand.Proofs.Json.Decoding
import Errand.Run.Encoding

/-!
# Runs come back from their text

`read_write` says that a run is read from the text that was written for it, with its task, stage,
plan, results in their order, cursor and answer, and that nobody watches the run that is read. The
cursor has to be a number of 64 bits.
-/

set_option autoImplicit false

namespace Errand

open Json (Fields Place Source IsWhole)

/-! ### Results -/

theorem Results.entries_foldl_insert (results : Results) (entries : List (String × String))
    (h : (Entries.names (results.entries ++ entries)).Nodup) :
    (entries.foldl (fun results entry ↦ results.insert entry.1 entry.2) results).entries =
      results.entries ++ entries := by
  induction entries generalizing results with
  | nil => simp
  | cons entry entries ih =>
    have hfresh : entry.1 ∉ Entries.names results.entries := by
      intro hmem
      simp only [Entries.names, List.map_append, List.map_cons] at h hmem
      exact (List.nodup_append.mp h).2.2 entry.1 hmem entry.1 (by simp) rfl
    have hinsert : (results.insert entry.1 entry.2).entries = results.entries ++ [entry] :=
      Entries.set_of_notMem hfresh
    rw [List.foldl_cons, ih _ (by simpa [hinsert] using h), hinsert, List.append_assoc]
    rfl

/-- Results are made of their entries. -/
theorem Results.ofList_entries (results : Results) : Results.ofList results.entries = results := by
  have hnodup : (Entries.names (empty.entries ++ results.entries)).Nodup := by
    simpa [empty] using results.nodup
  have hentries := entries_foldl_insert .empty results.entries hnodup
  rw [← Results.ofList] at hentries
  cases hlist : Results.ofList results.entries
  cases results
  simp_all [empty]

/-! ### The parts of a run -/

theorem Step.decoder_toJson (step : Step) {place : Place}
    (hdepth : place.depth < Source.maxDepth) :
    Step.decoder place (.ofJson step.toJson) = .ok step := by
  refine Fields.decoder_obj "struct PlanStep" hdepth ?_ ?_
  · simp [Entries.names]
  · exact .and (.and (.and (.and (.done Step.mk) (.required rfl rfl)) (.required rfl rfl))
      (.required rfl rfl)) (.required rfl rfl)

theorem Plan.decoder_toJson (plan : Plan) {place : Place}
    (hdepth : place.depth + 2 < Source.maxDepth) :
    Plan.decoder place (.ofJson plan.toJson) = .ok plan := by
  have hsteps : Json.Decode.list Step.decoder place.deeper
      (.ofJson (.arr (plan.steps.map Step.toJson))) = .ok plan.steps :=
    Json.Decode.list_arr Step.decoder Step.toJson plan.steps (Nat.lt_of_succ_lt hdepth)
      (fun step ↦ Step.decoder_toJson step hdepth)
  refine Fields.decoder_obj "struct PlanDocument" (by omega) ?_ ?_
  · simp [Entries.names]
  · exact .and (.and (.done Plan.mk) (.required rfl hsteps)) (.required rfl rfl)

theorem Results.decoder_toJson (results : Results) {place : Place}
    (hdepth : place.depth < Source.maxDepth) :
    Results.decoder place (.ofJson results.toJson) = .ok results := by
  have hentries := Json.Decode.map_obj Json.Decode.string .str results.entries hdepth
    (fun _ ↦ rfl)
  rw [decoder, toJson, hentries]
  exact congrArg Except.ok results.ofList_entries

theorem Task.decoder_toJson (task : Task) {place : Place}
    (hdepth : place.depth < Source.maxDepth) :
    Task.decoder place (.ofJson task.toJson) = .ok { task with watched := false } := by
  refine Fields.decoder_obj "struct Task" hdepth ?_ ?_
  · simp [Entries.names]
  · exact .and (.and (.done _) (.required rfl rfl)) (.required rfl rfl)

theorem Stage.decoder_name (stage : Stage) (place : Place) :
    Stage.decoder place (.ofJson (.str stage.name)) = .ok stage := by
  cases stage <;> rfl

theorem Json.Decode.usize_nat {n : Nat} (h : n < 2 ^ 64) (place : Place) :
    Json.Decode.usize place (.ofJson (.nat n)) = .ok n := by
  have hbound : Nat.pow 2 64 = 2 ^ 64 := rfl
  simp only [usize, natBelow, Json.nat, Source.ofJson, hbound]
  rw [if_pos (by omega)]
  rfl

namespace Run

/-- A run that somebody watches or that nobody does. -/
def watch (run : Run) (watched : Bool) : Run :=
  { run with task := { run.task with watched } }

/-- The fields under which a run is written. -/
theorem toJson_eq_obj (run : Run) :
    ∃ object, run.toJson = .obj object ∧ (Entries.names object).Nodup ∧
      object.lookup "task" = some run.task.toJson ∧
      object.lookup "stage" = some (.str run.stage.name) ∧
      object.lookup "plan" = run.plan.map Plan.toJson ∧
      object.lookup "results" = some run.results.toJson ∧
      object.lookup "cursor" = some (.nat run.cursor) ∧
      object.lookup "final_answer" = run.answer.map .str := by
  obtain ⟨task, stage, plan, results, cursor, answer⟩ := run
  refine ⟨_, rfl, ?_⟩
  cases plan <;> cases answer <;> simp [fieldIfSome, Entries.names, List.lookup_cons]

theorem decoder_toJson {run : Run} (hcursor : run.cursor < 2 ^ 64) {place : Place}
    (hdepth : place.depth + 3 < Source.maxDepth) :
    decoder place (.ofJson run.toJson) = .ok (run.watch false) := by
  obtain ⟨object, hobject, hnodup, htask, hstage, hplan, hresults, hcount, hanswer⟩ :=
    run.toJson_eq_obj
  have hinside : place.deeper.depth + 2 < Source.maxDepth := by
    simp only [Place.deeper]
    omega
  have hsomePlan (plan : Plan) : Json.Decode.option Plan.decoder place.deeper
      (.ofJson plan.toJson) = .ok (some plan) :=
    congrArg (some <$> ·) (plan.decoder_toJson hinside)
  rw [hobject]
  refine Fields.decoder_obj "struct WorkflowState" (by omega) hnodup ?_
  exact .and (.and (.and (.and (.and (.and (.done Run.mk)
    (.required htask (run.task.decoder_toJson (by omega))))
    (.required hstage (run.stage.decoder_name _)))
    (.nullable hplan hsomePlan))
    (.withDefault hresults (run.results.decoder_toJson (by omega))))
    (.withDefault hcount (Json.Decode.usize_nat hcursor _)))
    (.nullable hanswer fun _ ↦ rfl)

theorem isWhole_toJson {run : Run} (hcursor : run.cursor < 2 ^ 64) : IsWhole run.toJson := by
  have hsteps (steps : List Step) : Json.AreWhole (steps.map Step.toJson) := by
    induction steps with
    | nil => trivial
    | cons step steps ih => exact ⟨by simp [Step.toJson, IsWhole, Json.HaveWhole], ih⟩
  have hresults (results : Results) : IsWhole results.toJson := by
    obtain ⟨entries, hnodup⟩ := results
    change Json.HaveWhole (entries.map _)
    clear hnodup
    induction entries with
    | nil => trivial
    | cons entry entries ih => exact ⟨trivial, ih⟩
  obtain ⟨task, stage, plan, results, cursor, answer⟩ := run
  dsimp only at hcursor
  cases plan <;> cases answer <;>
    simp [toJson, fieldIfSome, Task.toJson, Plan.toJson, Json.nat, IsWhole, Json.HaveWhole, hsteps,
      hresults] <;> omega

/-- A run is read from its text as it was, but for who watches it. -/
theorem read_write {run : Run} (hcursor : run.cursor < 2 ^ 64) :
    read run.write = .ok (run.watch false) := by
  rw [read, write, Json.compact, String.toList_ofList,
    Json.decodeText_write _ (isWhole_toJson hcursor)]
  exact decoder_toJson hcursor (by decide)

end Run

end Errand
