import Shaderbox.Effect

/-!
# A scripted window system

The window system takes its answers from a script: the reasons for which steps fail, what the
display offers, and how large the window is. The script also says what a scripted application
decides.
-/

namespace Shaderbox

/-- What a scripted window system and a scripted application answer. -/
structure PlatformScript where
  eventLoopError : Option String := none
  runError : Option String := none
  displayError : Option String := none
  contextError : Option String := none
  surfaceError : Option String := none
  currentError : Option String := none
  intervalError : Option String := none
  swapError : Option String := none
  handleError : Option String := none
  describeError : Option String := none
  noWindow : Bool := false
  /-- Sample counts of the display configurations. -/
  configs : List Nat := [0, 4]
  size : PixelSize := ⟨1280, 720⟩
  scale : Float := 1
  version : String := "3.3.0"
  renderer : String := "scripted"
  readyError : Option String := none
  onInput : Control := .continue
  onWindowEvent : Control := .continue
  onFrame : Control := .continue
  title : Option String := none

namespace PlatformScript

/-- Answer a request to the window system. -/
def answer (script : PlatformScript) : (call : WindowCall) → call.Answer
  | .openEventLoop => script.eventLoopError
  | .eventLoopResult => script.runError
  | .findConfigs .. => script.displayError.elim (.ok script.configs) .error
  | .createWindow .. => !script.noWindow
  | .nativeHandle => script.handleError
  | .createContext .. => script.contextError
  | .describeSurface => script.describeError
  | .createSurface _ => script.surfaceError
  | .makeCurrent => script.currentError
  | .setSwapInterval _ => script.intervalError
  | .graphicsVersion => script.version
  | .rendererName => script.renderer
  | .innerSize => script.size
  | .scaleFactor => script.scale
  | .swapBuffers => script.swapError
  | .now => 0
  | .resizeSurface _ => ()
  | .requestRedraw => ()
  | .announcePresent => ()
  | .setTitle _ => ()
  | .pollContinuously => ()
  | .exitEventLoop => ()
  | .dropSurface => ()
  | .dropContext => ()
  | .dropWindow => ()

/-- Decide for a scripted application. -/
def decide (script : PlatformScript) : (observation : Observation) → observation.Answer
  | .contextReady _ => script.readyError
  | .input _ => script.onInput
  | .windowEvent _ => script.onWindowEvent
  | .frame _ => script.title
  | .frameControl => script.onFrame
  | .particlesInit => ()
  | .particlesDeinit => ()
  | .particlesUpdate .. => ()
  | .particlesRender .. => ()
  | .teardown => ()

end PlatformScript

end Shaderbox
