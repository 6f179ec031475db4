import Shaderbox.Clock
import Shaderbox.Effect
import Shaderbox.Files.Tree

/-!
# Applications

What the runtime calls in an application. The graphics context is current during every callback.
-/

namespace Shaderbox

/-- The input and timing of one frame. -/
structure Frame where
  data : EventData
  time : FrameTime

/-- An application with states of type `σ`. -/
structure App (σ : Type) where
  /-- The context is current and its size known. Answers with a reason when the run must end. -/
  contextReady : Files → PixelSize → σ → Action (Option String × σ)
  /-- An event of the window system, once the input in it was taken in and before the runtime does its
  own part. -/
  windowEvent : WindowEvent → σ → Action (Control × σ) := fun _ state => return (.continue, state)
  /-- An input event, after the input state took it in. -/
  input : Files → InputEvent → σ → Action (Control × σ) := fun _ _ state =>
    return (.continue, state)
  /-- One frame, before the buffers are swapped. -/
  frame : Frame → σ → Action (Control × σ)
  /-- The context is still current; graphics objects are released here. -/
  teardown : σ → Action σ := fun state => return state
  /-- What becomes of the state when the application itself goes. -/
  release : σ → Action Unit := fun _ => return ()

/-- Width over height of a window, or one while it has no area. -/
def PixelSize.aspectRatio (size : PixelSize) : Float32 :=
  match size.nonzero? with
  | none => 1
  | some size => Float32.ofNat size.width / Float32.ofNat size.height

/-- What an observer is shown of a frame. -/
def Frame.observe (frame : Frame) : Action Control := do
  let size ← Action.window .innerSize
  match ← Action.observe (.frame ⟨size, size.aspectRatio, frame.data, frame.time.index⟩) with
  | some title => Action.window (.setTitle title)
  | none => pure ()
  Action.observe .frameControl

/-- An application that leaves everything to its observer, with every callback of its own. -/
def observedApp : App Unit where
  contextReady _ size state := return (← Action.observe (.contextReady size), state)
  windowEvent event state := return (← Action.observe (.windowEvent event.kind), state)
  input _ event state := return (← Action.observe (.input event), state)
  frame frame state := return (← frame.observe, state)
  teardown _ := Action.observe .teardown

/-- An application that leaves the callbacks without a standard answer to its observer. -/
def bareApp : App Unit where
  contextReady _ size state := return (← Action.observe (.contextReady size), state)
  frame frame state := return (← frame.observe, state)

end Shaderbox
