import Shaderbox.Proofs.SurfaceInStep

/-!
# The viewport in force

Whatever is delivered to a runtime, and whatever its application does, the surface and the viewport
of an open window are resized together, for each size with an area that the window is given. A size
without one is only remembered: the viewport stays that of the last size with an area, or of the
window when it was made. Where the application leaves the viewport alone it is this one that the
device has in force.
-/

namespace Shaderbox

open Interaction Course

variable {σ : Type}

/-- The viewport that is set. -/
def Exchange.viewportSet? : Exchange (Effects Graphics) → Option (Int × Int)
  | ⟨.graphics (.setViewport width height), _⟩ => some (width, height)
  | _ => none

/-- Whether a program never sets the viewport. -/
def SetsNoViewport {α : Type} (program : Action α) : Prop :=
  ∀ exchanges outcome, Yields program exchanges outcome →
    ∀ exchange ∈ exchanges, exchange.viewportSet? = none

/-- Whether an application never sets the viewport itself. -/
structure App.LeavesViewport (app : App σ) : Prop where
  callbacks : ∀ callback state, SetsNoViewport (app.carryOut callback state)
  release : ∀ state, SetsNoViewport (app.release state)

theorem setsNoViewport_done {α : Type} {result : α} : SetsNoViewport (.done result) := by
  intro exchanges outcome hyields
  cases hyields
  simp

theorem setsNoViewport_ask {α : Type} {request : Request Graphics}
    {resume : request.Answer → Action α}
    (hrequest : ∀ answer, Exchange.viewportSet? ⟨request, answer⟩ = none)
    (hresume : ∀ answer, SetsNoViewport (resume answer)) :
    SetsNoViewport (.ask (I := Effects Graphics) request resume) := by
  intro exchanges outcome hyields
  cases hyields with
  | ask _ _ answer hrest =>
    exact List.forall_mem_cons.mpr ⟨hrequest answer, hresume answer _ _ hrest⟩

/-- An application that leaves everything to its observer does not set the viewport. -/
theorem leavesViewport_observedApp : observedApp.LeavesViewport where
  callbacks callback _ := by
    cases callback with
    | frame frame =>
      refine setsNoViewport_ask (fun _ => rfl) fun _ => setsNoViewport_ask (fun _ => rfl) fun
        | some title => setsNoViewport_ask (fun _ => rfl) fun _ => ?_
        | none => ?_
      all_goals exact setsNoViewport_ask (fun _ => rfl) fun _ => setsNoViewport_done
    | _ => exact setsNoViewport_ask (fun _ => rfl) fun _ => setsNoViewport_done
  release _ := setsNoViewport_done

/-- What a program exchanges does not depend on whether the cause of its abort is caught. -/
theorem Interaction.yields_of_caught {I : Interface} {α : Type} {program : Interaction I α}
    {exchanges : List (Exchange I)} {outcome : Except Abort α}
    (h : Yields program.caught exchanges (.ok outcome)) : Yields program exchanges outcome := by
  induction program generalizing exchanges with
  | done result =>
    cases h
    exact .done result
  | abort cause =>
    cases h
    exact .abort cause
  | ask request resume ih =>
    cases h with
    | ask _ _ answer hrest => exact .ask _ _ answer (ih answer hrest)

/-- The viewports that are set are those of the runtime, if the application leaves them alone. -/
theorem filterMap_viewportSet? {app : App σ} (happ : app.LeavesViewport) {course : Course σ}
    {exchanges : List (Exchange (Effects Graphics))} (h : Unfolds app.implement course exchanges) :
    exchanges.filterMap Exchange.viewportSet? = course.filterMap Exchange.viewport? := by
  induction h with
  | nil => rfl
  | @cons request answer course part exchanges hpart hrest ih =>
    have hfirst : part.filterMap Exchange.viewportSet? =
        (Exchange.viewport? (σ := σ) ⟨request, answer⟩).toList := by
      cases request with
      | world asked =>
        cases hpart with
        | ask _ _ _ hdone =>
          cases hdone
          cases asked with
          | graphics call => cases call <;> rfl
          | _ => rfl
      | app callback state =>
        exact List.filterMap_eq_nil_iff.mpr (happ.callbacks _ _ _ _ (yields_of_caught hpart))
      | release state =>
        exact List.filterMap_eq_nil_iff.mpr (happ.release _ _ _ (yields_of_caught hpart))
      | note milestone =>
        cases hpart
        rfl
    rw [List.filterMap_append, hfirst, ih]
    cases hset : Exchange.viewport? (σ := σ) ⟨request, answer⟩ <;> simp [hset]

/-- Whether surface and viewport of a runtime stay in step with the sizes that its window is given,
up to an outcome. -/
structure StaysInStep (course : Course σ) (outcome : Except Abort (Runtime σ)) : Prop where
  /-- The surface is resized for sizes with an area only, and the viewport follows at once. -/
  resized : ∀ front size back, course = front ++ .resizing size :: back →
    size.width ≠ 0 ∧ size.height ≠ 0 ∧ ∃ rest, back = .covering size :: rest
  /-- The size in use is the last one given, and the viewport covers the last one with an area. -/
  shows : ∀ runtime entry, outcome = .ok runtime → runtime.entry = some entry →
    Shows entry.surface.size course
  /-- What covers a size is as wide and as high, if both fit into a signed word. -/
  fits : ∀ size : PixelSize, size.width < 2 ^ 31 → size.height < 2 ^ 31 →
    size.viewport = (↑size.width, ↑size.height) ∧
      (.covering size : Exchange (Hosting σ)).viewport? = some (↑size.width, ↑size.height)

/-- Whatever the callbacks of the event loop and the answers of the application are, the surface and
the viewport follow the sizes of an open window in step, and the size in use is the last one given.
-/
theorem deliverAll_staysInStep (app : App σ) {window : WindowSettings} {context : ContextSettings}
    {state : σ} {callbacks : List (Files × LoopCallback)}
    {exchanges : List (Exchange (Effects Graphics))} {outcome : Except Abort (Runtime σ)}
    (hyields : Yields (Runtime.deliverAll app callbacks { window, context, app := state }) exchanges
      outcome) :
    ∃ course, Yields (Host.deliverAll callbacks { window, context, app := state }) course outcome ∧
      Unfolds app.implement course exchanges ∧ StaysInStep course outcome ∧
      (app.LeavesViewport →
        (exchanges.filterMap Exchange.viewportSet?).getLast? = viewportInForce course) := by
  rw [Host.deliverAll_eq] at hyields
  obtain ⟨course, hcourse, hunfolds⟩ :=
    exists_unfolds_of_yields_interpret app.implement_neverAborts hyields
  have hclosed : Runtime.Shown { window, context, app := state } [] := nofun
  obtain ⟨hobserved, hconcludes⟩ := Host.inStep_deliverAll callbacks hclosed _ _ hcourse
  refine ⟨course, hcourse, hunfolds, ⟨?_, ?_, ?_⟩, fun happ => ?_⟩
  · rintro front size back rfl
    obtain ⟨harea, rest, rfl⟩ := hobserved.holds size rfl
    obtain ⟨hwidth, hheight, -⟩ := PixelSize.nonzero?_eq_some_iff.mp harea
    exact ⟨hwidth, hheight, rest, rfl⟩
  · rintro runtime entry rfl hentry
    exact hconcludes _ (by rw [Runtime.inUse, hentry]; rfl)
  · intro size hwidth hheight
    rw [Exchange.viewport?_covering]
    exact ⟨PixelSize.viewport_of_lt hwidth hheight,
      congrArg some (PixelSize.viewport_of_lt hwidth hheight)⟩
  · rw [filterMap_viewportSet? happ hunfolds]
    rfl

/-- A window is resized and then minimized: its size is none at the end. -/
theorem deliverAll_staysInStep_minimized :
    ∃ (callbacks : List (Files × LoopCallback)) (exchanges : List (Exchange (Effects Graphics)))
      (course : Course Unit) (runtime : Runtime Unit) (entry : WindowEntry),
      callbacks.map Prod.snd =
        [.resumed, .windowEvent (.resized ⟨800, 600⟩), .windowEvent (.resized ⟨0, 0⟩)] ∧
      Yields (Runtime.deliverAll observedApp callbacks { window := {}, context := {}, app := () })
        exchanges (.ok runtime) ∧
      runtime.entry = some entry ∧ entry.surface.size = ⟨0, 0⟩ ∧
      Unfolds observedApp.implement course exchanges ∧ StaysInStep course (.ok runtime) ∧
      (exchanges.filterMap Exchange.viewportSet?).getLast? = viewportInForce course := by
  let callbacks : List (Files × LoopCallback) :=
    [(fun _ => .absent, .resumed), (fun _ => .absent, .windowEvent (.resized ⟨800, 600⟩)),
      (fun _ => .absent, .windowEvent (.resized ⟨0, 0⟩))]
  let program := Runtime.deliverAll observedApp callbacks { window := {}, context := {}, app := () }
  let ending := (program.run (World.answerOther World.answerGraphics) {}).1
  obtain ⟨exchanges, hyields⟩ : ∃ exchanges, Yields program exchanges ending :=
    yields_run _ program _
  have hending : ending.toOption.bind Runtime.inUse = some ⟨0, 0⟩ := by decide +kernel
  generalize ending = outcome at hyields hending
  cases outcome with
  | error cause => contradiction
  | ok runtime =>
    obtain ⟨entry, hentry, hsize⟩ := Option.map_eq_some_iff.mp hending
    obtain ⟨course, -, hunfolds, hinStep, hforce⟩ := deliverAll_staysInStep observedApp hyields
    exact ⟨callbacks, exchanges, course, runtime, entry, rfl, hyields, hentry, hsize, hunfolds,
      hinStep, hforce leavesViewport_observedApp⟩

end Shaderbox
