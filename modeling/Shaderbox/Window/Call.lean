import Shaderbox.Input.Event

/-!
# The window system interface

What the engine asks of the window system: its event loop, windows, contexts and surfaces. A step
that can fail answers with the reason, or with nothing when it succeeded.
-/

namespace Shaderbox

/-- A request to the window system. -/
inductive WindowCall where
  | openEventLoop
  /-- How the event loop ended. -/
  | eventLoopResult
  /-- Sample counts of the display configurations with the given properties, in order. -/
  | findConfigs (alphaSize : Nat) (samples : Option Nat)
  /-- Whether there is a window now. -/
  | createWindow (title : String) (width height : Float)
  | nativeHandle
  | createContext (config : Nat) (major minor : Nat)
  | describeSurface
  | createSurface (config : Nat)
  | makeCurrent
  | setSwapInterval (waits : Bool)
  | graphicsVersion
  | rendererName
  | innerSize
  | scaleFactor
  | resizeSurface (size : PixelSize)
  | swapBuffers
  | requestRedraw
  | announcePresent
  | setTitle (title : String)
  | pollContinuously
  | exitEventLoop
  | dropSurface
  | dropContext
  | dropWindow
  /-- The present, in nanoseconds. -/
  | now

/-- What a request to the window system gives back. -/
@[reducible] def WindowCall.Answer : WindowCall → Type
  | .openEventLoop => Option String
  | .eventLoopResult => Option String
  | .findConfigs .. => Except String (List Nat)
  | .createWindow .. => Bool
  | .nativeHandle => Option String
  | .createContext .. => Option String
  | .describeSurface => Option String
  | .createSurface _ => Option String
  | .makeCurrent => Option String
  | .setSwapInterval _ => Option String
  | .graphicsVersion => String
  | .rendererName => String
  | .innerSize => PixelSize
  | .scaleFactor => Float
  | .swapBuffers => Option String
  | .now => Int
  | _ => Unit

end Shaderbox
