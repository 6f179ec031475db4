import Shaderbox.Effect
import Shaderbox.Number.Word

/-!
# A window with a graphics context

A window, a context for it and a surface to draw on are made one after the other. When a step fails
everything made before is dropped again, the window last. The size in use is remembered, and while
it has no area neither the surface nor the viewport follows it.
-/

namespace Shaderbox

/-- Settings of the graphics context. -/
structure ContextSettings where
  /-- Version of the core profile that is asked for. -/
  major : Nat := 3
  minor : Nat := 3
  /-- Whether swapping buffers waits for the display. -/
  vsync : Bool := true
  /-- Samples of each pixel; none for a single one. -/
  samples : Nat := 4
deriving DecidableEq

/-- Settings of the window. -/
structure WindowSettings where
  title : String := "lumen"
  width : Float := 1280
  height : Float := 720

/-- Why a window with a graphics context could not be opened. -/
inductive WindowError where
  | display (reason : String)
  | noWindow
  | handle (reason : String)
  | context (major minor : Nat) (reason : String)
  | describe (reason : String)
  | surface (reason : String)
  | current (reason : String)
  /-- The application could not start. -/
  | app (reason : String)
deriving DecidableEq

/-- The reason in words. -/
def WindowError.message : WindowError → String
  | .display reason => "failed to create window and GL display: " ++ reason
  | .noWindow => "display builder returned no window"
  | .handle reason => "window has no native handle: " ++ reason
  | .context major minor reason =>
    s!"failed to create an OpenGL {major}.{minor} core context: " ++ reason
  | .describe reason => "failed to describe window surface: " ++ reason
  | .surface reason => "failed to create window surface: " ++ reason
  | .current reason => "failed to make GL context current: " ++ reason
  | .app reason => "app initialization failed: " ++ reason

/-- An open window with a current context and a surface, in use at a size. -/
structure Surface where
  size : PixelSize
deriving DecidableEq

/-- The position of the first of the greatest numbers. -/
def greatestPosition : List Nat → Option Nat
  | [] => none
  | samples => (samples.max?).map samples.idxOf

namespace Surface

/-- Let the viewport cover the size in use. -/
def applyViewport (surface : Surface) : Action Unit :=
  Action.graphics (.setViewport (Number.signedWord surface.size.width)
    (Number.signedWord surface.size.height))

/-- Stop with an error after dropping what was made, the last first. -/
def fail {α : Type} (dropped : List WindowCall) (error : WindowError) :
    Action (Except WindowError α) := do
  match dropped with
  | [] => return .error error
  | call :: rest =>
    let _ ← Action.window call
    fail rest error

/-- Make a context current in an open window, with a surface in it. -/
def attach (settings : ContextSettings) (config : Nat) : Action (Except WindowError Surface) := do
  if let some reason ← Action.window .nativeHandle then
    return ← fail [.dropWindow] (.handle reason)
  if let some reason ← Action.window (.createContext config settings.major settings.minor) then
    return ← fail [.dropWindow] (.context settings.major settings.minor reason)
  if let some reason ← Action.window .describeSurface then
    return ← fail [.dropContext, .dropWindow] (.describe reason)
  if let some reason ← Action.window (.createSurface config) then
    return ← fail [.dropContext, .dropWindow] (.surface reason)
  if let some reason ← Action.window .makeCurrent then
    return ← fail [.dropContext, .dropSurface, .dropWindow] (.current reason)
  if let some reason ← Action.window (.setSwapInterval settings.vsync) then
    Action.log .warn ("failed to set swap interval: " ++ reason)
  let version ← Action.window .graphicsVersion
  let renderer ← Action.window .rendererName
  Action.log .info s!"OpenGL {version} on {renderer}"
  let surface := Surface.mk (← Action.window .innerSize)
  surface.applyViewport
  return .ok surface

/-- Open a window on the display configuration with the most samples. -/
def openWindow (window : WindowSettings) (settings : ContextSettings) :
    Action (Except WindowError Surface) := do
  let samples := if settings.samples = 0 then none else some settings.samples
  match ← Action.window (.findConfigs 8 samples) with
  | .error reason => return .error (.display reason)
  | .ok configs =>
    match greatestPosition configs with
    | none => .abort .noDisplayConfig
    | some config =>
      if ← Action.window (.createWindow window.title window.width window.height) then
        attach settings config
      else return .error .noWindow

/-- Drop the surface, the context and then the window. -/
def drop (_ : Surface) : Action Unit := do
  Action.window .dropSurface
  Action.window .dropContext
  Action.window .dropWindow

/-- Take a new size into use. Without an area it is only remembered. -/
def resize (surface : Surface) (size : PixelSize) : Action Surface := do
  let surface := { surface with size }
  match size.nonzero? with
  | none => return surface
  | some size =>
    Action.window (.resizeSurface size)
    surface.applyViewport
    return surface

/-- Show what was drawn, or log why it cannot be. -/
def present (_ : Surface) : Action Unit := do
  if let some reason ← Action.window .swapBuffers then
    Action.log .error ("failed to swap buffers: " ++ reason)

end Surface

end Shaderbox
