import Errand.Proofs.Json.Compact
import Errand.Proofs.Run.Dispatching

/-!
# What carrying out a step promises

A caller of `Step.dispatch` wants to know three things. Was a collaborator called, what class of
error does a failure have, and what is kept? `Step.Contract` says all of it, and
`Step.dispatch_contract` that the promise is kept for every step, every team and all results. The
classes of errors are exact. An unknown operation and malformed parameters mean that nobody was
called, and a failure means that the one call failed. So a caller may try a failed step again with
the results it had.

What a success keeps is a text that is read back as the value that counts of the answer
(`Step.Answers`), in the place that the id has or at the end (`Results.Records`).
-/

set_option autoImplicit false

namespace Errand

variable {σ : Type}

/-! ### Entries and names -/

/-- An entry is set where its name stands first. -/
theorem Entries.set_append_cons {α : Type} {name : String} {before : List (String × α)}
    (h : name ∉ names before) (value old : α) (after : List (String × α)) :
    set name value (before ++ (name, old) :: after) = before ++ (name, value) :: after := by
  induction before with
  | nil => simp [set]
  | cons entry rest ih =>
    obtain ⟨n, v⟩ := entry
    simp only [names, List.map_cons, List.mem_cons, not_or] at h
    simp only [List.cons_append, set, if_neg (Ne.symm h.1), ih h.2]

/-- What results become when a text is recorded under an id. The other entries and the order stay.
-/
inductive Results.Records (results : Results) (id text : String) (next : Results) : Prop
  /-- The id has a text, which gives way to the new one. -/
  | replaced (before : List (String × String)) (old : String) (after : List (String × String))
      (hentries : results.entries = before ++ (id, old) :: after)
      (hnext : next.entries = before ++ (id, text) :: after)
  /-- The id is new and comes last. -/
  | added (hnew : id ∉ Entries.names results.entries)
      (hnext : next.entries = results.entries ++ [(id, text)])

theorem Results.records_insert (results : Results) (id text : String) :
    results.Records id text (results.insert id text) := by
  by_cases hid : id ∈ Entries.names results.entries
  · obtain ⟨⟨name, old⟩, hentry, rfl⟩ := List.mem_map.mp hid
    obtain ⟨before, after, hentries⟩ := List.append_of_mem hentry
    have hnames := results.nodup
    simp only [hentries, Entries.names, List.map_append, List.map_cons] at hnames
    have hfirst : name ∉ Entries.names before := fun hmem ↦
      (List.nodup_append.mp hnames).2.2 name hmem name (by simp) rfl
    refine .replaced before old after hentries ?_
    change Entries.set name text results.entries = _
    rw [hentries, Entries.set_append_cons hfirst]
  · exact .added hid (Entries.set_of_notMem hid)

/-- An operation that was added does not have the name of the language model. -/
theorem Registry.not_contains_register {registry next : Registry σ} {operation : Operation σ}
    (hcontains : ¬ registry.contains modelName) (h : registry.register operation = .ok next) :
    ¬ next.contains modelName := by
  unfold register at h
  split at h
  · cases h
  split at h
  · cases h
  split at h
  · cases h
  cases h
  simp_all [contains]

/-- No registry that was built by adding operations knows the name of the language model. -/
theorem Registry.not_contains_registerAll {operations : List (Operation σ)}
    {registry next : Registry σ} (hcontains : ¬ registry.contains modelName)
    (h : registry.registerAll operations = .ok next) : ¬ next.contains modelName := by
  induction operations generalizing registry with
  | nil =>
    cases h
    exact hcontains
  | cons operation rest ih =>
    rw [registerAll, List.foldlM_cons] at h
    cases hregister : registry.register operation with
    | error fault => simp [hregister, bind, Except.bind] at h
    | ok between =>
      simp only [hregister, bind, Except.bind] at h
      exact ih (not_contains_register hcontains hregister) h

/-! ### What a step asks -/

/-- Why a step may not ask. -/
theorem Step.inquiry_eq_error {registry : Registry σ} {step : Step} {input : String}
    {context : Operation.Context} {fault : StepFault}
    (h : step.inquiry registry input context = .error fault) :
    step.operation ≠ modelName ∧
      (fault = .unknownOperation step.operation ∧ ¬ registry.contains step.operation ∨
        fault = .malformedParameters step.operation input ∧
          registry.contains step.operation ∧ ∃ flaw, Json.parse input = .error flaw) := by
  unfold inquiry at h
  split at h
  · cases h
  next hmodel =>
  split at h
  · next hcontains =>
    cases hparse : Json.parse input with
    | error flaw =>
      simp only [hparse, Except.error.injEq] at h
      exact ⟨hmodel, .inr ⟨h.symm, hcontains, flaw, rfl⟩⟩
    | ok parameters => simp [hparse] at h
  · next hcontains =>
    simp only [Except.error.injEq] at h
    exact ⟨hmodel, .inl ⟨h.symm, hcontains⟩⟩

/-- What a step asks. -/
theorem Step.inquiry_eq_ok {registry : Registry σ} {step : Step} {input : String}
    {context : Operation.Context} {inquiry : Inquiry}
    (h : step.inquiry registry input context = .ok inquiry) :
    step.operation = modelName ∧ inquiry = .prompt input ∨
      step.operation ≠ modelName ∧ registry.contains step.operation ∧
        ∃ parameters, Json.parse input = .ok parameters ∧
          inquiry = .operation step.operation parameters context := by
  unfold Step.inquiry at h
  split at h
  · next hmodel => exact .inl ⟨hmodel, (Except.ok.inj h).symm⟩
  next hmodel =>
  split at h
  · next hcontains =>
    cases hparse : Json.parse input with
    | error flaw => simp [hparse] at h
    | ok parameters =>
      simp only [hparse, Except.ok.injEq] at h
      exact .inr ⟨hmodel, hcontains, parameters, rfl, h.symm⟩
  · cases h

/-! ### The contract -/

/-- A call that a step makes when `input` is its template with results put in, and the value that
counts of the answer. -/
inductive Step.Answers (step : Step) (input : String) (context : Operation.Context) :
    Consultation → Json → Prop
  /-- The language model says a text. -/
  | model (text : String) (hmodel : step.operation = modelName) :
      step.Answers input context ⟨.prompt input, .ok (.str text)⟩ (.str text)
  /-- The operation gives an object with a field `content`, which counts. -/
  | content (parameters : Json) (fields : List (String × Json)) (value : Json)
      (hmodel : step.operation ≠ modelName) (hparameters : Json.parse input = .ok parameters)
      (hcontent : fields.lookup "content" = some value) :
      step.Answers input context
        ⟨.operation step.operation parameters context, .ok (.obj fields)⟩ value
  /-- The operation gives a value without such a field, which counts itself. -/
  | output (parameters value : Json) (hmodel : step.operation ≠ modelName)
      (hparameters : Json.parse input = .ok parameters)
      (hcontent : value.field? "content" = none) :
      step.Answers input context ⟨.operation step.operation parameters context, .ok value⟩ value

/-- An answer to a step has a value that counts. -/
theorem Step.answers_of_ask {team : Team σ} {step : Step} {input : String}
    {context : Operation.Context} {inquiry : Inquiry} {output : Json} {outside : σ}
    (h : step.inquiry team.registry input context = .ok inquiry)
    (hanswer : (team.ask inquiry outside).1.outcome = .ok output) :
    step.Answers input context ⟨inquiry, .ok output⟩ (unwrapContent output) := by
  rcases inquiry_eq_ok h with ⟨hmodel, rfl⟩ | ⟨hmodel, -, parameters, hparameters, rfl⟩
  · rw [Team.ask, Consult.outcome_map] at hanswer
    cases hsaid : (team.oracle input outside).1.outcome with
    | error fault => simp [hsaid, Except.map] at hanswer
    | ok text =>
      simp only [hsaid, Except.map, Except.ok.injEq] at hanswer
      subst hanswer
      exact .model text hmodel
  · cases hcontent : output.field? "content" with
    | none =>
      rw [unwrapContent, hcontent]
      exact .output parameters output hmodel hparameters hcontent
    | some value =>
      rw [unwrapContent, hcontent]
      cases output with
      | obj fields => exact .content parameters fields value hmodel hparameters hcontent
      | _ => cases hcontent

/-- The value that counts is the answer with its content unwrapped. -/
theorem Step.Answers.exists_output {step : Step} {input : String} {context : Operation.Context}
    {call : Consultation} {value : Json} (h : step.Answers input context call value) :
    ∃ output, call.outcome = .ok output ∧ value = unwrapContent output := by
  cases h with
  | model text => exact ⟨.str text, rfl, rfl⟩
  | content parameters fields value _ _ hcontent =>
    exact ⟨.obj fields, rfl, by simp [unwrapContent, Json.field?, hcontent]⟩
  | output parameters value _ _ hcontent => exact ⟨value, rfl, by simp [unwrapContent, hcontent]⟩

/-- What carrying out a step promises, whatever its team does. -/
structure Step.Contract (team : Team σ) (step : Step) (context : Operation.Context) (watched : Bool)
    (results : Results) (scene : Scene σ) : Prop where
  /-- At most one collaborator is called, once. -/
  calls : (step.calls team context watched results scene.outside).length ≤ 1
  /-- An operation is unknown if and only if it is neither the language model nor registered. -/
  unknown : ∀ name,
    (step.dispatch team context watched results scene).1 = .error (.unknownOperation name) ↔
      name = step.operation ∧ step.operation ≠ modelName ∧
        ¬ team.registry.contains step.operation
  /-- Parameters are malformed if and only if the operation is registered and they are no JSON with
  the results put in. -/
  malformed : ∀ name input,
    (step.dispatch team context watched results scene).1 =
        .error (.malformedParameters name input) ↔
      name = step.operation ∧ input = results.resolve step.template ∧
        step.operation ≠ modelName ∧ team.registry.contains step.operation ∧
        ∃ flaw, Json.parse (results.resolve step.template) = .error flaw
  /-- Neither makes a call or changes anything outside. -/
  silent : ∀ fault, (step.dispatch team context watched results scene).1 = .error fault →
    (∀ name cause, fault ≠ .failed name cause) →
      step.calls team context watched results scene.outside = [] ∧
        (step.dispatch team context watched results scene).2.2 = scene
  /-- A step fails in carrying out if and only if the one call that it made failed. -/
  failed : ∀ name cause,
    (step.dispatch team context watched results scene).1 = .error (.failed name cause) ↔
      name = step.operation ∧ ∃ inquiry,
        step.calls team context watched results scene.outside = [⟨inquiry, .error cause⟩]
  /-- An error leaves the results as they are. -/
  unchanged : ∀ fault, (step.dispatch team context watched results scene).1 = .error fault →
    (step.dispatch team context watched results scene).2.1 = results
  /-- A step succeeds if and only if the one call was answered, and its text is the pretty text of
  the value that counts. -/
  succeeds : ∀ text,
    (step.dispatch team context watched results scene).1 = .ok text ↔
      ∃ call value, step.calls team context watched results scene.outside = [call] ∧
        step.Answers (results.resolve step.template) context call value ∧ text = value.pretty
  /-- The text is read back as that value, unless it has numbers that are not whole or more than
  127 arrays and objects inside one another. -/
  readable : ∀ text call value,
    (step.dispatch team context watched results scene).1 = .ok text →
      step.calls team context watched results scene.outside = [call] →
      step.Answers (results.resolve step.template) context call value →
      value.IsWhole → value.HasDistinctKeys → value.depth ≤ 127 → Json.parse text = .ok value
  /-- The text is recorded under the id of the step. -/
  records : ∀ text, (step.dispatch team context watched results scene).1 = .ok text →
    results.Records step.id text (step.dispatch team context watched results scene).2.1

section Contract

variable {team : Team σ} {step : Step} {context : Operation.Context} {results : Results}

/-- A step that may not ask keeps the contract. -/
theorem Step.contract_of_refused {fault : StepFault} (watched : Bool) (scene : Scene σ)
    (h : step.inquiry team.registry (results.resolve step.template) context = .error fault) :
    step.Contract team context watched results scene := by
  have hdispatch := dispatch_of_refused watched scene h
  have hcalls := calls_of_refused watched scene.outside h
  obtain ⟨hmodel, hfault⟩ := inquiry_eq_error h
  refine
    { calls := by simp [hcalls]
      unknown := fun name ↦ ?unknown
      malformed := fun name input ↦ ?malformed
      silent := fun _ _ _ ↦ ⟨hcalls, by rw [hdispatch]⟩
      failed := fun name cause ↦ ?failed
      unchanged := fun _ _ ↦ by rw [hdispatch]
      succeeds := by simp [hdispatch, hcalls]
      readable := by simp [hdispatch]
      records := by simp [hdispatch] }
  case unknown =>
    rcases hfault with ⟨rfl, hcontains⟩ | ⟨rfl, hcontains, -⟩
    · simp [hdispatch, hmodel, hcontains, eq_comm]
    · simp [hdispatch, hcontains]
  case malformed =>
    rcases hfault with ⟨rfl, hcontains⟩ | ⟨rfl, hcontains, flaw, hflaw⟩
    · simp [hdispatch, hcontains]
    · simp [hdispatch, hmodel, hcontains, hflaw, eq_comm]
  case failed =>
    rcases hfault with ⟨rfl, -⟩ | ⟨rfl, -⟩ <;> simp [hdispatch, hcalls]

/-- A step that asks is neither unknown nor malformed. -/
theorem Step.allowed_of_asked {input : String} {inquiry : Inquiry}
    (h : step.inquiry team.registry input context = .ok inquiry) :
    ¬ (step.operation ≠ modelName ∧ ¬ team.registry.contains step.operation) ∧
      ¬ (step.operation ≠ modelName ∧ ∃ flaw, Json.parse input = .error flaw) := by
  rcases inquiry_eq_ok h with ⟨hmodel, -⟩ | ⟨-, hcontains, parameters, hparse, -⟩
  · simp [hmodel]
  · simp [hcontains, hparse]

/-- A step whose call fails keeps the contract. -/
theorem Step.contract_of_failed {inquiry : Inquiry} {cause : Fault} (watched : Bool)
    (scene : Scene σ)
    (h : step.inquiry team.registry (results.resolve step.template) context = .ok inquiry)
    (hreply : (team.ask inquiry scene.outside).1.outcome = .error cause) :
    step.Contract team context watched results scene := by
  have hdispatch := dispatch_of_asked watched scene h
  have hcalls := calls_of_asked watched scene.outside h
  rw [hreply] at hdispatch hcalls
  obtain ⟨hknown, hformed⟩ := allowed_of_asked h
  exact
    { calls := by simp [hcalls]
      unknown := fun name ↦ by simpa [hdispatch] using fun _ ↦ not_and.mp hknown
      malformed := fun name input ↦ by
        simpa [hdispatch] using fun _ _ hmodel _ flaw hflaw ↦ hformed ⟨hmodel, flaw, hflaw⟩
      silent := fun fault hfault hother ↦ by
        simp only [hdispatch, Except.error.injEq] at hfault
        exact absurd hfault.symm (hother step.operation cause)
      failed := fun name cause ↦ by simp [hdispatch, hcalls, eq_comm]
      unchanged := fun _ _ ↦ by rw [hdispatch]
      succeeds := fun text ↦ by
        refine iff_of_false (by simp [hdispatch]) ?_
        rintro ⟨call, value, hcall, hanswers, -⟩
        obtain rfl := List.singleton_inj.mp (hcalls.symm.trans hcall)
        obtain ⟨output, houtcome, -⟩ := hanswers.exists_output
        cases houtcome
      readable := by simp [hdispatch]
      records := by simp [hdispatch] }

/-- A step whose call is answered keeps the contract. -/
theorem Step.contract_of_answered {inquiry : Inquiry} {output : Json} (watched : Bool)
    (scene : Scene σ)
    (h : step.inquiry team.registry (results.resolve step.template) context = .ok inquiry)
    (hreply : (team.ask inquiry scene.outside).1.outcome = .ok output) :
    step.Contract team context watched results scene := by
  have hdispatch := dispatch_of_asked watched scene h
  have hcalls := calls_of_asked watched scene.outside h
  rw [hreply] at hdispatch hcalls
  obtain ⟨hknown, hformed⟩ := allowed_of_asked h
  have hcounts : ∀ {call value}, step.calls team context watched results scene.outside = [call] →
      step.Answers (results.resolve step.template) context call value →
      value = unwrapContent output := by
    intro call value hcall hanswers
    obtain rfl := List.singleton_inj.mp (hcalls.symm.trans hcall)
    obtain ⟨_, houtcome, hvalue⟩ := hanswers.exists_output
    cases houtcome
    exact hvalue
  refine
    { calls := by simp [hcalls]
      unknown := fun name ↦ by simpa [hdispatch] using fun _ ↦ not_and.mp hknown
      malformed := fun name input ↦ by
        simpa [hdispatch] using fun _ _ hmodel _ flaw hflaw ↦ hformed ⟨hmodel, flaw, hflaw⟩
      silent := by simp [hdispatch]
      failed := fun name cause ↦ by simp [hdispatch, hcalls]
      unchanged := by simp [hdispatch]
      succeeds := fun text ↦ ?succeeds
      readable := fun text call value htext hcall hanswers hwhole hkeys hdepth ↦ ?readable
      records := fun text htext ↦ ?records }
  case succeeds =>
    simp only [hdispatch, Except.ok.injEq]
    constructor
    · rintro rfl
      exact ⟨_, _, hcalls, answers_of_ask h hreply, rfl⟩
    · rintro ⟨call, value, hcall, hanswers, rfl⟩
      rw [hcounts hcall hanswers, Step.output]
  case readable =>
    simp only [hdispatch, Except.ok.injEq] at htext
    obtain rfl := hcounts hcall hanswers
    rw [← htext, Step.output]
    exact Json.parse_pretty hwhole hkeys hdepth
  case records =>
    simp only [hdispatch, Except.ok.injEq] at htext ⊢
    rw [htext]
    exact results.records_insert step.id text

end Contract

/-- A step keeps its contract, and in a registry that was built by adding operations parameters are
malformed if and only if the operation is registered and they are no JSON. -/
theorem Step.dispatch_contract (team : Team σ) (step : Step) (context : Operation.Context)
    (watched : Bool) (results : Results) (scene : Scene σ) :
    step.Contract team context watched results scene ∧
      ∀ operations, Registry.registerAll {} operations = .ok team.registry →
        ((∃ name input, (step.dispatch team context watched results scene).1 =
            .error (.malformedParameters name input)) ↔
          team.registry.contains step.operation ∧
            ∃ flaw, Json.parse (results.resolve step.template) = .error flaw) := by
  have hcontract : step.Contract team context watched results scene := by
    cases h : step.inquiry team.registry (results.resolve step.template) context with
    | error fault => exact contract_of_refused watched scene h
    | ok inquiry =>
      cases hreply : (team.ask inquiry scene.outside).1.outcome with
      | error cause => exact contract_of_failed watched scene h hreply
      | ok output => exact contract_of_answered watched scene h hreply
  refine ⟨hcontract, fun operations hbuilt ↦ ?_⟩
  have hreserved : ¬ team.registry.contains modelName :=
    Registry.not_contains_registerAll (by simp [Registry.contains]) hbuilt
  simp only [hcontract.malformed]
  constructor
  · rintro ⟨_, _, _, _, _, hcontains, hflaw⟩
    exact ⟨hcontains, hflaw⟩
  · rintro ⟨hcontains, hflaw⟩
    exact ⟨_, _, rfl, rfl, fun hmodel ↦ hreserved (hmodel ▸ hcontains), hcontains, hflaw⟩

end Errand
