import Shaderbox.Camera
import Shaderbox.Demo.Swirl
import Shaderbox.Scene.Basic
import Shaderbox.Window.Runtime

/-!
# The demo

Swirling particles in a scene, seen through an orbit camera. The key R builds the shaders afresh,
and the space bar stops the particles where they are.
-/

namespace Shaderbox

/-- The state of the demo. -/
structure Demo where
  shaders : ShaderConfig
  scene : Option (Scene Swirl) := none
  camera : OrbitCamera := {}

namespace Demo

/-- Make the scene. A new one is complete before an old one goes. -/
def contextReady (files : Files) (size : PixelSize) (demo : Demo) :
    Action (Option String × Demo) := do
  Action.log .info s!"shaders from \"{demo.shaders.root.text}\" ({size.width}x{size.height})"
  match ← Scene.create files Swirl.simulation { shaders := demo.shaders }
      { shaders := demo.shaders } with
  | .error error => return (some ("failed to create scene: " ++ error.message), demo)
  | .ok scene =>
    if !scene.findings.isEmpty then
      Action.log .warn s!"scene built with {scene.findings.length} shader problems"
    Scene.drop Swirl.simulation demo.scene
    return (none, { demo with scene := some scene })

/-- Build the shaders of the scene afresh. -/
def reload (files : Files) (demo : Demo) : Action Demo := do
  match demo.scene with
  | none => return demo
  | some scene =>
    let (result, scene) ← scene.reload files
    match result with
    | .error error => Action.log .error ("shader reload: " ++ error.message)
    | .ok _ => pure ()
    return { demo with scene := some scene }

/-- Whether an event is the first press of the key R. -/
def asksReload : InputEvent → Bool
  | .key key true false => key = .letter 17
  | _ => false

/-- React to an input event. -/
def input (files : Files) (event : InputEvent) (demo : Demo) : Action (Control × Demo) := do
  if asksReload event then return (.continue, ← demo.reload files)
  else return (.continue, demo)

/-- Draw a frame; without a scene the run ends. -/
def frame (frame : Frame) (demo : Demo) : Action (Control × Demo) := do
  match demo.scene with
  | none => return (.exit, demo)
  | some scene =>
    let camera ← .ofExcept (demo.camera.update frame.data)
    let size ← Action.window .innerSize
    let view := camera.view
    let viewProjection := camera.projection size.aspectRatio * view
    let dt := if frame.data.spaceToggled then 0 else frame.time.dt.seconds
    let scene ← scene.update Swirl.simulation view dt
    let scene ← scene.render Swirl.simulation view viewProjection
    return (.continue, { demo with scene := some scene, camera })

/-- Release the scene. -/
def teardown (demo : Demo) : Action Demo := do
  Scene.drop Swirl.simulation demo.scene
  return { demo with scene := none }

/-- The demo as an application. -/
def app : App Demo where
  contextReady := contextReady
  input := input
  frame := frame
  teardown := teardown
  release demo := Scene.drop Swirl.simulation demo.scene

/-- The window of the demo. -/
def windowSettings : WindowSettings := { title := "lumen - gpu particles" }

/-- The demo with shaders from a directory. -/
def ofRoot (root : Path) : Demo := { shaders := { root } }

/-- Run the demo with shaders from a directory over the callbacks of an event loop. -/
def run (root : Path) (callbacks : List (Files × LoopCallback)) :
    Action (Except RunError Unit) :=
  Runtime.run app windowSettings {} (ofRoot root) callbacks

end Demo

end Shaderbox
