import Shaderbox.Proofs.HostDelivery
import Shaderbox.Simulation.World

/-!
# What a frame sees of the input

A frame is handed the input state that the events since its window was opened amount to; scrolling
and motion are those since the frame before it. What a window event is made into is handed to the
application right behind its delivery, so the input events of a course are those that were
delivered, in order. Whether what was drawn can be shown does not matter to any of it.
-/

namespace Shaderbox

open Interaction Course

variable {σ : Type}

/-- Whether a frame sees its input, and is shown before what belongs to it is cleared. -/
structure SeesItsInput (front : Course σ) (frame : Frame) (answer : Except Abort (Control × σ))
    (back : Course σ) : Prop where
  data : frame.data = .after (inputs (sinceOpening front)) (inputs (sinceFrame front))
  /-- A motion of the cursor is seen by the frame behind it, and by no other. -/
  moved : frame.data.mouseMoved = true ↔ ∃ before motion between,
    front = before ++ motion :: between ∧ motion.movesCursor = true ∧
      ∀ exchange ∈ between, exchange.opens = false ∧ exchange.isFrame = false
  /-- Frames are counted from the opening of the window. -/
  index : frame.time.index.toNat = (sinceOpening front).countP Exchange.isFrame % UInt64.size
  shown : ∀ result, answer = .ok result → ∃ reason? rest, back = shownFrame reason? ++ rest

/-- Whether all frames of a course see their input: each window event that is delivered to an open
window is handed on as what it is made into, no other input event is, and each frame sees these. -/
structure FramesSeeTheirInput (course : Course σ) : Prop where
  frames : ∀ front frame state answer back,
    course = front ++ .app (.frame frame) state answer :: back →
      holdsWindow front = true ∧ SeesItsInput front frame answer back
  handedOn : ∀ front event back, course = front ++ .delivered (.windowEvent event) :: back →
    holdsWindow front = true → IsHandedOn event back
  delivered : ∀ front files input state answer back,
    course = front ++ .app (.input files input) state answer :: back →
      holdsWindow front = true ∧ WasDelivered front input

theorem opens_and_isFrame_of_movesCursor {exchange : Exchange (Hosting σ)}
    (h : exchange.movesCursor = true) : exchange.opens = false ∧ exchange.isFrame = false := by
  unfold Exchange.movesCursor at h
  split at h
  · exact ⟨rfl, rfl⟩
  · contradiction

/-- A frame that is called for as it should be sees its input. -/
theorem FrameFits.seesItsInput {front back : Course σ} {frame : Frame}
    {answer : Except Abort (Control × σ)} (h : FrameFits front frame answer back) :
    SeesItsInput front frame answer back where
  data := h.data
  moved := by
    rw [h.moved]
    exact any_sinceFrame_iff (fun _ => opens_and_isFrame_of_movesCursor) front
  index := by rw [h.index, UInt64.toNat_ofNat']
  shown := h.shown

/-- Whatever an application does, and whatever is delivered to its window in between, each frame
sees exactly its input: all events that were delivered since the window was opened, with scrolling
and motion since the frame before. The frames are counted, and each is shown once before the next
one begins. -/
theorem run_framesSeeTheirInput (app : App σ) {window : WindowSettings} {context : ContextSettings}
    {state : σ} {callbacks : List (Files × LoopCallback)}
    {exchanges : List (Exchange (Effects Graphics))} {outcome : Except Abort (Except RunError Unit)}
    (hyields : Yields (Runtime.run app window context state callbacks) exchanges outcome) :
    ∃ course, Yields (Host.run window context state callbacks) course outcome ∧
      Unfolds app.implement course exchanges ∧ FramesSeeTheirInput course := by
  obtain ⟨course, hcourse, hunfolds⟩ := Host.exists_course_of_yields_run app hyields
  obtain ⟨hobserved, -⟩ :=
    Host.behaves_run window context state callbacks (fun hnever : False => hnever.elim) _ _ hcourse
  refine ⟨course, hcourse, hunfolds, ⟨?_, ?_, ?_⟩⟩
  · rintro front frame state answer back rfl
    exact ⟨hobserved.holds.2.held, hobserved.holds.2.seesItsInput⟩
  · rintro front event back rfl hheld
    exact hobserved.holds hheld
  · rintro front files input state answer back rfl
    exact hobserved.holds.2

/-- The frames see their input where the space bar goes down between two of them, though nothing
that is drawn can be shown. -/
theorem run_framesSeeTheirInput_spaceBar :
    ∃ (callbacks : List (Files × LoopCallback)) (exchanges : List (Exchange (Effects Graphics)))
      (course : Course Unit),
      callbacks.map Prod.snd = [.resumed, .windowEvent .redrawRequested,
        .windowEvent (.keyboard (.code "Space") true false), .windowEvent .redrawRequested,
        .exiting] ∧
      Yields (Runtime.run observedApp {} {} () callbacks) exchanges (.ok (.ok ())) ∧
      Unfolds observedApp.implement course exchanges ∧ FramesSeeTheirInput course := by
  let world : World := { platform := { swapError := some "the surface is lost" } }
  let callbacks : List (Files × LoopCallback) :=
    [(fun _ => .absent, .resumed), (fun _ => .absent, .windowEvent .redrawRequested),
      (fun _ => .absent, .windowEvent (.keyboard (.code "Space") true false)),
      (fun _ => .absent, .windowEvent .redrawRequested), (fun _ => .absent, .exiting)]
  let program := Runtime.run observedApp {} {} () callbacks
  let ending := (program.run (World.answerOther World.answerGraphics) world).1
  obtain ⟨exchanges, hyields⟩ : ∃ exchanges, Yields program exchanges ending :=
    yields_run _ program world
  have hending : ending.toOption = some (.ok ()) := by decide +kernel
  generalize ending = outcome at hyields hending
  cases outcome with
  | error cause => contradiction
  | ok result =>
    obtain rfl := Option.some.inj hending
    obtain ⟨course, -, hunfolds, hsees⟩ := run_framesSeeTheirInput observedApp hyields
    exact ⟨callbacks, exchanges, course, rfl, hyields, hunfolds, hsees⟩

end Shaderbox
