import Errand.Proofs.Run.Contract

/-!
# Who gets into a registry

Operations are offered to a registry one after another (`Registry.offerAll`); one that is refused
leaves the registry as it was. A name is open to operations if it is not blank and not that of the
language model (`Registry.IsOpen`), and the first operation of an open name takes it. An offer keeps
a registry orderly: its names are open and no two operations have the same (`Orderly.offer`), and so
it stays however many are offered (`Orderly.offerAll`).

`offerAll_accepted` tells the answers to the offers and what the registry holds in the end. It also
says what this is for: a step that names the language model never comes to an operation.
-/

set_option autoImplicit false

namespace Errand

variable {σ : Type}

namespace Registry

/-! ### Offers -/

/-- Whether operations can have a name. -/
def IsOpen (name : String) : Prop :=
  (∃ c ∈ name.toList, Text.isBlank c = false) ∧ name ≠ modelName

/-- What an operation is answered that is offered to a registry, and the registry afterwards. -/
def offer (registry : Registry σ) (operation : Operation σ) : Except Fault Unit × Registry σ :=
  match registry.register operation with
  | .ok next => (.ok (), next)
  | .error fault => (.error fault, registry)

/-- Operations are offered one after another. -/
def offerAll (registry : Registry σ) : List (Operation σ) → List (Except Fault Unit) × Registry σ
  | [] => ([], registry)
  | operation :: rest =>
    let (answer, next) := registry.offer operation
    let (answers, last) := next.offerAll rest
    (answer :: answers, last)

/-- The operations that are accepted of those that are offered. -/
def accepted (registry : Registry σ) (offered : List (Operation σ)) : List (Operation σ) :=
  ((offered.zip (registry.offerAll offered).1).filter (·.2.isOk)).map Prod.fst

/-- The refusal of an operation whose name another has. -/
def taken (name : String) : Fault :=
  .conflict ("Operation '" ++ name ++ "' is already registered")

theorem contains_iff {registry : Registry σ} {name : String} :
    registry.contains name ↔ ∃ operation ∈ registry.operations, operation.name = name := by
  simp [contains]

theorem isOpen_iff {name : String} :
    IsOpen name ↔ Text.isAllBlank name = false ∧ name ≠ modelName := by
  simp [IsOpen, Text.isAllBlank]

/-- An operation whose name is not open is refused. -/
theorem offer_of_not_isOpen (registry : Registry σ) {operation : Operation σ}
    (h : ¬ IsOpen operation.name) :
    ∃ text, registry.offer operation = (.error (.validation text), registry) := by
  rw [isOpen_iff, not_and_or, Bool.not_eq_false, not_not] at h
  rw [offer, register]
  by_cases hblank : Text.isAllBlank operation.name
  · exact ⟨_, by rw [if_pos hblank]⟩
  · rw [if_neg hblank, if_pos (h.resolve_left hblank)]
    exact ⟨_, rfl⟩

/-- An operation whose name another has is refused. -/
theorem offer_of_contains {registry : Registry σ} {operation : Operation σ}
    (h : IsOpen operation.name) (hcontains : registry.contains operation.name) :
    registry.offer operation = (.error (taken operation.name), registry) := by
  obtain ⟨hblank, hmodel⟩ := isOpen_iff.mp h
  simp [offer, register, hblank, hmodel, hcontains, taken]

/-- The first operation of an open name is accepted. -/
theorem offer_of_not_contains {registry : Registry σ} {operation : Operation σ}
    (h : IsOpen operation.name) (hcontains : ¬ registry.contains operation.name) :
    registry.offer operation = (.ok (), ⟨registry.operations ++ [operation]⟩) := by
  obtain ⟨hblank, hmodel⟩ := isOpen_iff.mp h
  simp [offer, register, hblank, hmodel, hcontains]

/-- All that an offer can come to. -/
theorem offer_cases (registry : Registry σ) (operation : Operation σ) :
    (∃ text, ¬ IsOpen operation.name ∧
        registry.offer operation = (.error (.validation text), registry)) ∨
      (IsOpen operation.name ∧ registry.contains operation.name ∧
        registry.offer operation = (.error (taken operation.name), registry)) ∨
      (IsOpen operation.name ∧ ¬ registry.contains operation.name ∧
        registry.offer operation = (.ok (), ⟨registry.operations ++ [operation]⟩)) := by
  by_cases hopen : IsOpen operation.name
  · by_cases hcontains : registry.contains operation.name
    · exact .inr (.inl ⟨hopen, hcontains, offer_of_contains hopen hcontains⟩)
    · exact .inr (.inr ⟨hopen, hcontains, offer_of_not_contains hopen hcontains⟩)
  · obtain ⟨text, hoffer⟩ := offer_of_not_isOpen registry hopen
    exact .inl ⟨text, hopen, hoffer⟩

/-! ### Offers one after another -/

theorem offerAll_append (registry : Registry σ) (front back : List (Operation σ)) :
    registry.offerAll (front ++ back) =
      ((registry.offerAll front).1 ++ ((registry.offerAll front).2.offerAll back).1,
        ((registry.offerAll front).2.offerAll back).2) := by
  induction front generalizing registry with
  | nil => rfl
  | cons operation rest ih => simp [offerAll, ih]

theorem length_offerAll (registry : Registry σ) (offered : List (Operation σ)) :
    (registry.offerAll offered).1.length = offered.length := by
  induction offered generalizing registry with
  | nil => rfl
  | cons operation rest ih => simp [offerAll, ih]

/-- A registry holds what it held and then what was accepted, in order. -/
theorem operations_offerAll (registry : Registry σ) (offered : List (Operation σ)) :
    (registry.offerAll offered).2.operations =
      registry.operations ++ registry.accepted offered := by
  induction offered generalizing registry with
  | nil => simp [offerAll, accepted]
  | cons operation rest ih =>
    rcases registry.offer_cases operation with ⟨text, -, h⟩ | ⟨-, -, h⟩ | ⟨-, -, h⟩ <;>
      simp [offerAll, accepted, h, ih, Except.isOk, Except.toBool]

/-- An operation is answered by the registry that holds what was accepted before. -/
theorem getElem?_offerAll (registry : Registry σ) {offered : List (Operation σ)} {i : Nat}
    {operation : Operation σ} (h : offered[i]? = some operation) :
    (registry.offerAll offered).1[i]? =
        some ((registry.offerAll (offered.take i)).2.offer operation).1 ∧
      (registry.offerAll (offered.take (i + 1))).2 =
        ((registry.offerAll (offered.take i)).2.offer operation).2 := by
  obtain ⟨hlt, rfl⟩ := List.getElem?_eq_some_iff.mp h
  have htake : offered.take (i + 1) = offered.take i ++ [offered[i]] := by simp
  have hsplit : offered = offered.take i ++ offered[i] :: offered.drop (i + 1) := by simp
  constructor
  · conv_lhs => rw [hsplit, offerAll_append]
    rw [List.getElem?_append_right (by simp [length_offerAll])]
    simp [length_offerAll, offerAll, Nat.min_eq_left hlt.le]
  · rw [htake, offerAll_append]
    rfl

/-! ### Orderly registries -/

/-- Whether the names in a registry are open, and no two operations have the same. -/
structure Orderly (registry : Registry σ) : Prop where
  isOpen : ∀ operation ∈ registry.operations, IsOpen operation.name
  nodup : registry.names.Nodup

theorem orderly_empty : ({} : Registry σ).Orderly where
  isOpen _ hmem := absurd hmem List.not_mem_nil
  nodup := List.nodup_nil

theorem Orderly.offer {registry : Registry σ} (h : registry.Orderly) (operation : Operation σ) :
    (registry.offer operation).2.Orderly := by
  rcases registry.offer_cases operation with ⟨text, -, hoffer⟩ | ⟨-, -, hoffer⟩ |
    ⟨hopen, hnew, hoffer⟩
  · rwa [hoffer]
  · rwa [hoffer]
  · rw [hoffer]
    rw [contains_iff] at hnew
    refine ⟨?_, ?_⟩
    · simpa [or_imp, forall_and, hopen] using h.isOpen
    · rw [names, List.map_append, List.nodup_append]
      refine ⟨h.nodup, by simp, ?_⟩
      intro name hname other hother hsame
      obtain ⟨earlier, hearlier, rfl⟩ := List.mem_map.mp hname
      obtain rfl := List.mem_singleton.mp hother
      exact hnew ⟨earlier, hearlier, hsame⟩

theorem Orderly.offerAll {registry : Registry σ} (h : registry.Orderly)
    (offered : List (Operation σ)) : (registry.offerAll offered).2.Orderly := by
  induction offered generalizing registry with
  | nil => exact h
  | cons operation rest ih => exact ih (h.offer operation)

/-- In an orderly registry an operation is found under its own name. -/
theorem Orderly.get?_eq_some_iff {registry : Registry σ} (h : registry.Orderly) {name : String}
    {operation : Operation σ} :
    registry.get? name = some operation ↔
      operation ∈ registry.operations ∧ operation.name = name := by
  constructor
  · intro hget
    exact ⟨List.mem_of_find?_eq_some hget, by simpa using List.find?_some hget⟩
  · rintro ⟨hmem, rfl⟩
    have hsome : (registry.get? operation.name).isSome :=
      List.find?_isSome.mpr ⟨operation, hmem, by simp⟩
    obtain ⟨found, hfound⟩ := Option.isSome_iff_exists.mp hsome
    have hname : found.name = operation.name := by simpa using List.find?_some hfound
    rw [hfound, List.inj_on_of_nodup_map h.nodup (List.mem_of_find?_eq_some hfound) hmem hname]

/-- No orderly registry knows the name of the language model. -/
theorem Orderly.get?_modelName {registry : Registry σ} (h : registry.Orderly) :
    registry.get? modelName = none := by
  rw [Option.eq_none_iff_forall_ne_some]
  intro operation hget
  obtain ⟨hmem, hname⟩ := h.get?_eq_some_iff.mp hget
  exact (h.isOpen operation hmem).2 hname

end Registry

/-! ### Whom a step comes to -/

section Calls

variable {team : Team σ} {step : Step} {context : Operation.Context} {watched : Bool}
  {results : Results} {outside : σ}

/-- A step that names the language model asks it once, and nobody else. -/
theorem Step.calls_of_modelName (hmodel : step.operation = modelName) :
    step.calls team context watched results outside =
      [⟨.prompt (results.resolve step.template),
        (team.oracle (results.resolve step.template) outside).1.outcome.map Json.str⟩] := by
  have hinquiry : step.inquiry team.registry (results.resolve step.template) context =
      .ok (.prompt (results.resolve step.template)) := by
    rw [inquiry, if_pos hmodel]
  rw [calls_of_asked watched outside hinquiry, Team.ask, Consult.outcome_map]

/-- An operation that a step invokes is the one that it names, and is registered. -/
theorem Step.contains_of_mem_calls {call : Consultation} {name : String} {parameters : Json}
    {actor : Operation.Context} (hcall : call ∈ step.calls team context watched results outside)
    (hinquiry : call.inquiry = .operation name parameters actor) :
    name = step.operation ∧ team.registry.contains name := by
  cases hask : step.inquiry team.registry (results.resolve step.template) context with
  | error fault => simp [calls_of_refused watched outside hask] at hcall
  | ok asked =>
    rw [calls_of_asked watched outside hask, List.mem_singleton] at hcall
    subst hcall
    rcases inquiry_eq_ok hask with ⟨-, rfl⟩ | ⟨-, hcontains, _, -, rfl⟩
    · cases hinquiry
    · cases hinquiry
      exact ⟨rfl, hcontains⟩

end Calls

/-! ### Offers to an empty registry -/

/-- Operations are offered one after another to an empty registry. An operation is accepted if its
name is open and none of those accepted before has it. If one has, it is refused as a conflict, and
if the name is not open, as invalid; either way the registry stays as it is. In the end the registry
holds the accepted operations in their order, no two of one name, and finds each under its own name
and nothing else. Where it is the registry of a team, a step that names the language model asks it
once and nobody else, and an operation that a step invokes is an accepted one with the name that the
step gives. -/
theorem Registry.offerAll_accepted (offered : List (Operation σ)) :
    let answers := (({} : Registry σ).offerAll offered).1
    let registry := (({} : Registry σ).offerAll offered).2
    let accepted := ({} : Registry σ).accepted offered
    (∀ i operation, offered[i]? = some operation →
      let earlier := ({} : Registry σ).accepted (offered.take i)
      (answers[i]? = some (.ok ()) ↔
          IsOpen operation.name ∧ ∀ other ∈ earlier, other.name ≠ operation.name) ∧
        (answers[i]? = some (.error (taken operation.name)) ↔
          IsOpen operation.name ∧ ∃ other ∈ earlier, other.name = operation.name) ∧
        ((∃ text, answers[i]? = some (.error (.validation text))) ↔ ¬ IsOpen operation.name) ∧
        (answers[i]? ≠ some (.ok ()) →
          (({} : Registry σ).offerAll (offered.take (i + 1))).2 =
            (({} : Registry σ).offerAll (offered.take i)).2)) ∧
      registry.operations = accepted ∧ (accepted.map (·.name)).Nodup ∧
      (∀ name operation, registry.get? name = some operation ↔
        operation ∈ accepted ∧ operation.name = name) ∧
      (∀ name, registry.contains name ↔ name ∈ accepted.map (·.name)) ∧
      registry.names = accepted.map (·.name) ∧ registry.catalog = accepted.map (·.info) ∧
      ∀ (team : Team σ) (step : Step) (context : Operation.Context) (watched : Bool)
          (results : Results) (outside : σ), team.registry = registry →
        (step.operation = modelName →
          step.calls team context watched results outside =
            [⟨.prompt (results.resolve step.template),
              (team.oracle (results.resolve step.template) outside).1.outcome.map Json.str⟩]) ∧
        ∀ call ∈ step.calls team context watched results outside, ∀ name parameters actor,
          call.inquiry = .operation name parameters actor →
            name = step.operation ∧ name ≠ modelName ∧ name ∈ accepted.map (·.name) := by
  intro answers registry accepted
  have horderly : registry.Orderly := orderly_empty.offerAll offered
  have hoperations : registry.operations = accepted := operations_offerAll {} offered
  have hcontains (name : String) : registry.contains name ↔ name ∈ accepted.map (·.name) := by
    rw [contains_iff, hoperations, List.mem_map]
  refine ⟨fun i operation hoperation ↦ ?answers, hoperations, ?nodup, fun name operation ↦ ?get,
    hcontains, ?names, ?catalog, fun team step context watched results outside hteam ↦
    ⟨Step.calls_of_modelName, fun call hcall name parameters actor hinquiry ↦ ?invoked⟩⟩
  case answers =>
    intro earlier
    obtain ⟨hanswer, hnext⟩ : answers[i]? = _ ∧ _ :=
      ({} : Registry σ).getElem?_offerAll hoperation
    have hheld : (({} : Registry σ).offerAll (offered.take i)).2.operations = earlier :=
      operations_offerAll {} (offered.take i)
    rw [hanswer, hnext]
    rcases offer_cases (({} : Registry σ).offerAll (offered.take i)).2 operation with
      ⟨text, hopen, hoffer⟩ | ⟨hopen, hhas, hoffer⟩ | ⟨hopen, hhas, hoffer⟩
    · simp [hoffer, hopen, taken]
    · rw [contains_iff, hheld] at hhas
      simpa [hoffer, hopen, taken] using hhas
    · rw [contains_iff, hheld] at hhas
      simpa [hoffer, hopen, taken] using hhas
  case nodup =>
    rw [← hoperations]
    exact horderly.nodup
  case get =>
    rw [horderly.get?_eq_some_iff, hoperations]
  case names =>
    rw [names, hoperations]
  case catalog =>
    rw [catalog, hoperations]
  case invoked =>
    obtain ⟨hname, hknown⟩ := Step.contains_of_mem_calls hcall hinquiry
    rw [hteam] at hknown
    refine ⟨hname, ?_, (hcontains name).mp hknown⟩
    rintro rfl
    rw [contains_eq_isSome, horderly.get?_modelName] at hknown
    cases hknown

/-- A blank name is offered, that of the language model, the same with a blank after it, and another
name twice. -/
theorem Registry.offerAll_accepted_repeated :
    let operation (name : String) : Operation Unit :=
      ⟨⟨name, "", .null⟩, fun _ _ ↦ .succeed .null⟩
    let offered := [" ", "LLM", "LLM ", "Count", "Count"].map operation
    let answers := (({} : Registry Unit).offerAll offered).1
    let registry := (({} : Registry Unit).offerAll offered).2
    (∃ text, answers[0]? = some (.error (.validation text))) ∧
      (∃ text, answers[1]? = some (.error (.validation text))) ∧
      answers[2]? = some (.ok ()) ∧ answers[3]? = some (.ok ()) ∧
      answers[4]? = some (.error (taken "Count")) ∧ registry.names = ["LLM ", "Count"] := by
  intro operation offered answers registry
  obtain ⟨hanswers, -, -, -, -, hnames, -⟩ := offerAll_accepted offered
  have hpadded : IsOpen "LLM " := isOpen_iff.mpr (by decide +kernel)
  have hcount : IsOpen "Count" := isOpen_iff.mpr (by decide +kernel)
  refine ⟨(hanswers 0 (operation " ") rfl).2.2.1.mpr (mt isOpen_iff.mp (by decide +kernel)),
    (hanswers 1 (operation "LLM") rfl).2.2.1.mpr (mt isOpen_iff.mp (by decide +kernel)),
    (hanswers 2 (operation "LLM ") rfl).1.mpr ⟨hpadded, by decide +kernel⟩,
    (hanswers 3 (operation "Count") rfl).1.mpr ⟨hcount, by decide +kernel⟩,
    (hanswers 4 (operation "Count") rfl).2.1.mpr ⟨hcount, by decide +kernel⟩, ?_⟩
  rw [hnames]
  decide +kernel

end Errand
