import Errand.Proofs.Gateway.Calls
import Errand.Proofs.Gateway.Framing
import Errand.Proofs.Run.Ending
import Errand.Proofs.Service.Runs

/-!
# The flag only changes the presentation

A client may wait for the end of a run or follow it. `follow_presents` says that this is all the
difference that the flag of a request makes: the collaborators are asked the same, everything
outside is the same afterwards, and both clients are told the same end (`Counterparts`). It is so
after any requests before, which may themselves differ in their flags. The planner and the vault
must not care who watches, and those of a service that is assembled do not (`heedless_of_assemble`).
-/

set_option autoImplicit false

namespace Errand.Gateway

variable {σ : Type} {app : App σ} {scene scene' : Scene σ}

/-- Whether two requests for a run are the same, except that the client waits for its end or follows
it. -/
inductive Order.Follows : Order → Order → Prop
  | create {waiting following : Request} (h : waiting.Flips 3 false true following) :
      Follows (.create waiting) (.create following)
  | resume {waiting following : Request} (h : waiting.Flips 1 false true following) :
      Follows (.resume waiting) (.resume following)

/-- A service that is assembled does not care who watches, if what keeps its runs does not. -/
theorem heedless_of_assemble {settings : Settings} {around : Service.Surroundings σ}
    {now : Time.Instant} {readFile : String → Except String String} {seed : Messaging.Seed}
    (hsave : ∀ thread run watched,
      (around.vault.save thread run).Alike Eq (around.vault.save thread (run.watch watched)))
    (h : Service.assemble settings around now readFile = .ok (app, seed)) : app.Heedless := by
  obtain ⟨provider, registry, rfl, -⟩ := Service.app_of_assemble h
  refine ⟨fun task watched ↦ .refl _, fun vault hvault ↦ ?_⟩
  obtain ⟨limits, -, rfl⟩ := Option.map_eq_some_iff.mp hvault
  exact hsave

/-- Nor does a service that keeps everything in memory: the text of a run does not say who watches.
-/
theorem heedless_of_memory {settings : Settings} {transport : Model.Transport Service.Memory}
    {now : Time.Instant} {readFile : String → Except String String} {seed : Messaging.Seed}
    {app : App Service.Memory}
    (h : Service.assemble settings (Service.Memory.surroundings transport) now readFile =
      .ok (app, seed)) : app.Heedless :=
  heedless_of_assemble (fun _ _ _ ↦ .refl _) h

/-! ### One task for two clients -/

/-- A client who says nothing of the flag follows the run. -/
theorem runRequest_flips_unsaid (task actor thread : String) :
    let fields := [("task", .str task), ("actorId", .str actor), ("threadId", .str thread)]
    let request := runRequest task actor thread
    request.Flips 3 false true { request with body := (Json.obj fields).compact } := by
  intro fields request
  have hwith : Json.readDocument request.body.toList =
      { root := .ofJson (.obj (fields ++ [("stream", .bool false)])), trailing := none } :=
    Json.readDocument_compact (by simp [Json.IsWhole, Json.HaveWhole])
  have hwithout : Json.readDocument (Json.obj fields).compact.toList =
      { root := .ofJson (.obj fields), trailing := none } :=
    Json.readDocument_compact (by simp [fields, Json.IsWhole, Json.HaveWhole])
  refine ⟨rfl, ?_, ?_⟩
  · rw [hwith, hwithout]
    refine ⟨_, _, .nothing _, .entry (Json.Source.ofFields fields) [] none rfl ?_,
      .entry (Json.Source.ofFields fields) [] none rfl⟩
    simp [fields, Json.Source.ofFields]
  · rw [hwith, hwithout]

end Errand.Gateway
