import Errand.Proofs.Run.Calls
import Errand.Proofs.Run.Reachability
import Errand.Proofs.Run.Template

/-!
# Outputs flow into parameters as values

What a step keeps is the pretty text of a value (`Results.Holds.dispatch`), and so a run that can be
reached holds such texts only (`Run.Reached.holds`). A later step may name an output in the place of
a value of its parameters. `Step.dispatch_template` says that its operation then gets the parameters
with the very value in that place. A template with holes is read as the value with every hole
filled, whatever quotes, braces and line feeds are in the outputs. If some hole has no output, the
operation is not invoked.
-/

set_option autoImplicit false

namespace Errand

variable {σ : Type}

/-! ### What is kept of steps -/

namespace Results

variable {results : Results} {value : String → Json}

/-- Whether every output is the pretty text of its value. -/
def Holds (results : Results) (value : String → Json) : Prop :=
  ∀ id output, results.get? id = some output → output = (value id).pretty

/-- Outputs that can be put into templates. -/
structure Serves (results : Results) (value : String → Json) : Prop where
  /-- Every output is the pretty text of its value. -/
  holds : results.Holds value
  /-- The values have no numbers that are not whole. -/
  whole : ∀ id, results.contains id → (value id).IsWhole
  /-- The ids are step ids, and no output has one of them in it. -/
  clean : IsClean results.entries

/-- Nothing is kept at first. -/
theorem holds_empty (value : String → Json) : empty.Holds value := by
  rintro id output ⟨⟩

theorem Holds.insert (h : results.Holds value) (id : String) (output : Json) :
    (results.insert id output.pretty).Holds
      fun other ↦ if other = id then output else value other := by
  intro other text hget
  rw [get?_insert] at hget
  split at hget
  · next heq => simpa [heq] using (Option.some.inj hget).symm
  · next hne => simpa [hne] using h other text hget

/-- A successful step keeps the pretty text of a value under its id, and what else is kept stays. -/
theorem Holds.dispatch {team : Team σ} {step : Step} {context : Operation.Context}
    {watched : Bool} {next : Results} {scene after : Scene σ} {text : String}
    (h : results.Holds value)
    (hdispatch : step.dispatch team context watched results scene = (.ok text, next, after)) :
    ∃ output : Json, text = output.pretty ∧
      next.Holds fun id ↦ if id = step.id then output else value id := by
  rw [Step.dispatch] at hdispatch
  cases hcall : step.call team (results.resolve step.template) context with
  | error fault => simp [hcall] at hdispatch
  | ok call =>
    rw [hcall] at hdispatch
    rcases hconsult : scene.consult watched call with ⟨_ | output, later⟩
    · simp [hconsult] at hdispatch
    · simp only [hconsult, Prod.mk.injEq, Except.ok.injEq] at hdispatch
      obtain ⟨rfl, rfl, -⟩ := hdispatch
      exact ⟨output, rfl, h.insert step.id output⟩

theorem Serves.spells (h : results.Serves value) :
    ∀ entry ∈ results.entries, Json.Spells entry.2.toList (.value (value entry.1)) := by
  intro entry hentry
  have hget : results.get? entry.1 = some entry.2 := Entries.lookup_of_mem results.nodup hentry
  have hwhole := h.whole entry.1 (by simp [contains, hget])
  rw [h.holds entry.1 entry.2 hget, Json.pretty, String.toList_ofList]
  exact Json.spells_writePretty 0 (value entry.1) hwhole

end Results

/-- The outputs of a run that can be reached are the pretty texts of values. -/
theorem Run.Reached.holds {task : Task} {run : Run} {outputs : List String}
    (h : Reached task run outputs) : ∃ value, run.results.Holds value := by
  induction h with
  | start => exact ⟨fun _ ↦ .null, Results.holds_empty _⟩
  | @advance σ run outputs team scene _ ih =>
    obtain ⟨value, hholds⟩ := ih
    rw [run_advance]
    rcases hturn : run.turn team scene.outside with ⟨_ | fault, next, after⟩
    · obtain ⟨answer, hsettles⟩ := settles_of_turn hturn
      cases hsettles with
      | planned | solved => exact ⟨value, hholds⟩
      | stepped plan step => exact ⟨_, hholds.insert step.id (unwrapContent answer)⟩
    · have hkept := run_turn_of_fault (congrArg Prod.fst hturn)
      rw [hturn] at hkept
      exact ⟨value, by rwa [hkept]⟩

/-! ### Dispatching -/

/-- What a team is asked while a step is carried out, with the answers, in order. -/
def Step.calls (team : Team σ) (step : Step) (context : Operation.Context) (watched : Bool)
    (results : Results) (outside : σ) : List Consultation :=
  (step.dispatch team.noted context watched results { outside := (outside, []) }).2.2.outside.2

theorem Step.inquiry_noted (team : Team σ) (step : Step) (input : String)
    (context : Operation.Context) :
    step.inquiry team.noted.registry input context = step.inquiry team.registry input context := by
  unfold Step.inquiry
  rw [Registry.contains_noted]

/-- What a step that asks leaves outside is what the one call leaves there. -/
theorem Step.outside_dispatch_of_asked {team : Team σ} {step : Step} {context : Operation.Context}
    {results : Results} {inquiry : Inquiry} (watched : Bool) (scene : Scene σ)
    (h : step.inquiry team.registry (results.resolve step.template) context = .ok inquiry) :
    (step.dispatch team context watched results scene).2.2.outside =
      (team.ask inquiry scene.outside).2 := by
  rw [dispatch_of_asked watched scene h]
  cases (team.ask inquiry scene.outside).1.outcome <;> rfl

/-- A step that asks makes one call. -/
theorem Step.calls_of_asked {team : Team σ} {step : Step} {context : Operation.Context}
    {results : Results} {inquiry : Inquiry} (watched : Bool) (outside : σ)
    (h : step.inquiry team.registry (results.resolve step.template) context = .ok inquiry) :
    step.calls team context watched results outside =
      [⟨inquiry, (team.ask inquiry outside).1.outcome⟩] := by
  rw [calls, outside_dispatch_of_asked watched _ ((inquiry_noted team step _ context).trans h),
    Team.ask_noted (knows_of_inquiry h), List.nil_append]

/-- A step that may not ask makes no call. -/
theorem Step.calls_of_refused {team : Team σ} {step : Step} {context : Operation.Context}
    {results : Results} {fault : StepFault} (watched : Bool) (outside : σ)
    (h : step.inquiry team.registry (results.resolve step.template) context = .error fault) :
    step.calls team context watched results outside = [] := by
  rw [calls, dispatch_of_refused watched _ ((inquiry_noted team step _ context).trans h)]

/-- An operation is invoked once, with the value that its template spells, where every hole is
filled with the very value whose text was kept. If some hole has no output, nothing is invoked,
nothing is kept, and the step fails because its parameters cannot be read. -/
theorem Step.dispatch_template {team : Team σ} {step : Step} {operation : Operation σ}
    {results : Results} {value : String → Json} {form : Json.Form} (context : Operation.Context)
    (watched : Bool) (scene : Scene σ) (hmodel : step.operation ≠ modelName)
    (hoperation : team.registry.get? step.operation = some operation)
    (hserves : results.Serves value)
    (htemplate :
      Json.IsTemplate (Entries.names results.entries) step.template.toList form) :
    ((∀ id ∈ form.holes, results.contains id) → (form.fill value).HasDistinctKeys →
      (form.fill value).depth ≤ 127 →
        step.calls team context watched results scene.outside =
            [⟨.operation step.operation (form.fill value) context,
              (operation.invoke (form.fill value) context scene.outside).1.outcome⟩] ∧
          (step.dispatch team context watched results scene).2.2.outside =
            (operation.invoke (form.fill value) context scene.outside).2) ∧
    ((∃ id ∈ form.holes, ¬ results.contains id) →
      step.dispatch team context watched results scene =
        (.error (.malformedParameters step.operation (results.resolve step.template)),
          results, scene) ∧
        step.calls team context watched results scene.outside = []) := by
  have hcontains : team.registry.contains step.operation := by
    rw [Registry.contains_eq_isSome, hoperation]
    rfl
  have hparse : Json.parse (results.resolve step.template) =
      Json.read (Results.resolveText results.entries step.template.toList) := by
    rw [Json.parse, Results.resolve, String.toList_ofList]
    rfl
  constructor
  · intro hholes hkeys hdepth
    have hread := htemplate.read_resolveText hserves.clean hserves.spells hholes hkeys hdepth
    have hinquiry : step.inquiry team.registry (results.resolve step.template) context =
        .ok (.operation step.operation (form.fill value) context) := by
      simp only [inquiry, hmodel, hcontains, hparse, hread, if_false, if_true]
    have hask : team.ask (.operation step.operation (form.fill value) context) =
        operation.invoke (form.fill value) context := by
      simp only [Team.ask, hoperation]
    have hcalls := calls_of_asked watched scene.outside hinquiry
    have houtside := outside_dispatch_of_asked watched scene hinquiry
    rw [hask] at hcalls houtside
    exact ⟨hcalls, houtside⟩
  · intro hholes
    obtain ⟨flaw, hread⟩ :=
      htemplate.exists_read_resolveText hserves.clean hserves.spells hholes
    have hinquiry : step.inquiry team.registry (results.resolve step.template) context =
        .error (.malformedParameters step.operation (results.resolve step.template)) := by
      simp only [inquiry, hmodel, hcontains, hparse, hread, if_false, if_true]
    exact ⟨dispatch_of_refused watched scene hinquiry,
      calls_of_refused watched scene.outside hinquiry⟩

/-- What two steps have left: a text with a quote, a backslash, a brace and a line feed in it, and
an object. -/
def leftValue (id : String) : Json :=
  if id = "#E1" then .str "a\"b\\c\x7d\né" else .obj [("k", .arr [.null, .num (.int (-7))])]

/-- The outputs of the two steps. -/
def leftResults : Results :=
  ⟨[("#E2", (leftValue "#E2").pretty), ("#E1", (leftValue "#E1").pretty)], by decide⟩

/-- A step that uses both outputs, and has a text that is no step id in it. -/
def usingStep : Step :=
  ⟨"send", "#E3", "Send", "\x7b\"to\": #E1, \"parts\": [#E2, \"#E\"]\x7d"⟩

theorem serves_left : leftResults.Serves leftValue where
  holds := by
    intro id output h
    simp only [Results.get?, leftResults, List.lookup] at h
    split at h
    · next hid =>
      obtain rfl := eq_of_beq hid
      exact (Option.some.inj h).symm
    · split at h
      · next hid =>
        obtain rfl := eq_of_beq hid
        exact (Option.some.inj h).symm
      · cases h
  whole := by
    intro id _
    unfold leftValue
    split <;> simp [Json.IsWhole, Json.HaveWhole, Json.AreWhole]
  clean :=
    { ids := by
        intro id hid
        simp only [Entries.names, leftResults, List.map_cons, List.map_nil, List.mem_cons,
          List.not_mem_nil, or_false] at hid
        rcases hid with rfl | rfl
        · exact isStepId_two
        · exact isStepId_one
      outputs := by decide +kernel }

theorem isTemplate_using :
    Json.IsTemplate (Entries.names leftResults.entries) usingStep.template.toList
      (.obj [("to", .hole "#E1"), ("parts", .arr [.hole "#E2", .known (.str "#E")])]) := by
  have hone := @Json.Template.hole (Entries.names leftResults.entries) "#E1" isStepId_one
    (by decide +kernel)
  have htwo := @Json.Template.hole (Entries.names leftResults.entries) "#E2" isStepId_two
    (by decide +kernel)
  have hmark := @Json.Template.str (Entries.names leftResults.entries) _ "#E"
    (.flatMap_escapeChar "#E".toList) (by decide +kernel)
  have hparts := Json.Template.arr Json.isBlank_nil
    (.itemsCons Json.isBlank_nil Json.isBlank_space htwo (.item Json.isBlank_nil hmark))
  have hlast := Json.Template.field (.flatMap_escapeChar "parts".toList) (by decide +kernel)
    Json.isBlank_nil Json.isBlank_space Json.isBlank_nil hparts
  have hfields := Json.Template.fieldsCons (.flatMap_escapeChar "to".toList) (by decide +kernel)
    Json.isBlank_nil Json.isBlank_space Json.isBlank_nil Json.isBlank_space hone hlast
  exact ⟨[], _, [], Json.isBlank_nil, Json.isBlank_nil, .obj Json.isBlank_nil hfields,
    by decide +kernel⟩

/-- Both outputs stand as values in what the operation gets, also the text with a quote in it. -/
theorem Step.dispatch_template_nested :
    usingStep.calls (Team.refusing "Send" (.internal "down")) { actor := "u-1" } false leftResults
        () =
      [⟨.operation "Send"
          (.obj [("to", .str "a\"b\\c\x7d\né"),
            ("parts", .arr [.obj [("k", .arr [.null, .num (.int (-7))])], .str "#E"])])
          { actor := "u-1" },
        .error (.internal "down")⟩] := by
  have hdispatch := dispatch_template { actor := "u-1" } false { outside := () }
    (show usingStep.operation ≠ modelName by decide)
    (show (Team.refusing "Send" (.internal "down")).registry.get? usingStep.operation = some _ from
      rfl)
    serves_left isTemplate_using
  have hkeys : Json.HasDistinctKeys (.obj [("to", .str "a\"b\\c\x7d\né"),
      ("parts", .arr [.obj [("k", .arr [.null, .num (.int (-7))])], .str "#E"])]) := by
    simp [Json.HasDistinctKeys, Json.FieldsHaveDistinctKeys, Json.ItemsHaveDistinctKeys,
      Entries.names]
  exact (hdispatch.1 (by decide +kernel) hkeys (by decide +kernel)).1

end Errand
