import Shaderbox.Input.Conversion
import Shaderbox.Window.App
import Shaderbox.Window.Surface

/-!
# The runtime

The runtime opens a window when the event loop resumes it, hands events and frames to the
application, and shuts down when the window closes, the application asks for it or Escape was
pressed. It is driven by the callbacks of the event loop. The application is torn down while the
context is still there; then the surface, the context and the window are dropped in this order.
-/

namespace Shaderbox

/-- An open window with its input state and clock. -/
structure WindowEntry where
  surface : Surface
  events : EventContext
  clock : FrameClock

/-- The state of a run with an application of states `σ`. -/
structure Runtime (σ : Type) where
  window : WindowSettings
  context : ContextSettings
  app : σ
  entry : Option WindowEntry := none
  exitRequested : Bool := false
  failure : Option WindowError := none

/-- A callback of the event loop. -/
inductive LoopCallback where
  | resumed
  | windowEvent (event : WindowEvent)
  | aboutToWait
  | exiting

/-- Why a run ended badly. -/
inductive RunError where
  | eventLoop (reason : String)
  | loopResult (reason : String)
  | window (error : WindowError)
deriving DecidableEq

/-- The reason in words. -/
def RunError.message : RunError → String
  | .eventLoop reason => "failed to create winit EventLoop: " ++ reason
  | .loopResult reason => "winit event loop terminated with error: " ++ reason
  | .window error => error.message

namespace Runtime

variable {σ : Type}

/-- Let the application release its objects while the context is there, then drop the window. -/
def closeWindow (app : App σ) (runtime : Runtime σ) : Action (Runtime σ) := do
  match runtime.entry with
  | none => return runtime
  | some entry =>
    let state ← app.teardown runtime.app
    entry.surface.drop
    return { runtime with app := state, entry := none }

/-- Close the window and end the event loop. -/
def shutDown (app : App σ) (runtime : Runtime σ) : Action (Runtime σ) := do
  let runtime ← runtime.closeWindow app
  Action.window .exitEventLoop
  return { runtime with exitRequested := true }

/-- Remember a failure and shut down. -/
def fail (app : App σ) (error : WindowError) (runtime : Runtime σ) : Action (Runtime σ) := do
  Action.log .error error.message
  { runtime with failure := some error }.shutDown app

/-- Open the window and let the application prepare itself. -/
def openWindow (app : App σ) (files : Files) (runtime : Runtime σ) : Action (Runtime σ) := do
  match ← Surface.openWindow runtime.window runtime.context with
  | .error error => runtime.fail app error
  | .ok surface =>
    let size ← Action.window .innerSize
    let (failure, state) ← (app.contextReady files size runtime.app).onAbort surface.drop
    let runtime := { runtime with app := state }
    match failure with
    | some reason =>
      surface.drop
      runtime.fail app (.app reason)
    | none =>
      Action.window .requestRedraw
      let now ← Action.window .now
      return { runtime with entry := some ⟨surface, .standard, .standard now⟩ }

/-- The event loop is running, perhaps again. -/
def resumed (app : App σ) (files : Files) (runtime : Runtime σ) : Action (Runtime σ) :=
  if runtime.entry.isSome || runtime.exitRequested then return runtime
  else runtime.openWindow app files

/-- The event loop has nothing left to deliver. -/
def aboutToWait (runtime : Runtime σ) : Action (Runtime σ) := do
  if runtime.exitRequested then Action.window .exitEventLoop
  else
    Action.window .pollContinuously
    if runtime.entry.isSome then Action.window .requestRedraw
  return runtime

/-- Let the application draw a frame and show it. -/
def drawFrame (app : App σ) (entry : WindowEntry) (state : σ) :
    Action (Control × WindowEntry × σ) := do
  let (time, clock) := entry.clock.tick (← Action.window .now)
  let (control, state) ← app.frame ⟨entry.events.data, time⟩ state
  Action.window .announcePresent
  entry.surface.present
  return (control, { entry with clock }, state)

/-- Draw a frame, unless the run is to end, and begin the input of the next one. -/
def redraw (app : App σ) (runtime : Runtime σ) : Action (Runtime σ) := do
  match runtime.entry with
  | none => return runtime
  | some entry =>
    let (control, entry, state) ←
      if entry.events.data.exitRequested then pure (.exit, entry, runtime.app)
      else drawFrame app entry runtime.app
    let runtime :=
      { runtime with
        app := state
        entry := some { entry with events := entry.events.beginFrame } }
    match control with
    | .exit => runtime.shutDown app
    | .continue => return runtime

/-- Take an event into the input state and hand it to the application. -/
def deliverInput (app : App σ) (files : Files) (event : WindowEvent) (runtime : Runtime σ) :
    Action (Control × Runtime σ) := do
  match runtime.entry with
  | none => return (.continue, runtime)
  | some entry =>
    let scaleFactor ← Action.window .scaleFactor
    match ← .ofExcept (event.input scaleFactor) with
    | none => return (.continue, runtime)
    | some input =>
      let entry := { entry with events := entry.events.handle input }
      let (control, state) ← app.input files input runtime.app
      return (control, { runtime with app := state, entry := some entry })

/-- Let the surface follow a size. -/
def resize (size : PixelSize) (entry : WindowEntry) (runtime : Runtime σ) :
    Action (Runtime σ) := do
  let surface ← entry.surface.resize size
  return { runtime with entry := some { entry with surface } }

/-- What the runtime itself does about an event. -/
def react (app : App σ) (event : WindowEvent) (runtime : Runtime σ) : Action (Runtime σ) := do
  match event, runtime.entry with
  | .closeRequested, _ => runtime.shutDown app
  | .resized size, some entry =>
    let runtime ← runtime.resize size entry
    Action.window .requestRedraw
    return runtime
  | .scaleFactorChanged, some entry => runtime.resize (← Action.window .innerSize) entry
  | .redrawRequested, _ => runtime.redraw app
  | _, _ => return runtime

/-- An event of the window system. -/
def windowEvent (app : App σ) (files : Files) (event : WindowEvent) (runtime : Runtime σ) :
    Action (Runtime σ) := do
  if runtime.exitRequested then return runtime
  else
    let (control, runtime) ← runtime.deliverInput app files event
    let (control, runtime) ← match control with
      | .exit => pure (control, runtime)
      | .continue => do
        let (control, state) ← app.windowEvent event runtime.app
        pure (control, { runtime with app := state })
    match control with
    | .exit => runtime.shutDown app
    | .continue => runtime.react app event

/-- The event loop is ending. -/
def exiting (app : App σ) (runtime : Runtime σ) : Action (Runtime σ) :=
  runtime.closeWindow app

/-- Carry out a callback of the event loop, with the files as they are then. -/
def deliver (app : App σ) (files : Files) (callback : LoopCallback) (runtime : Runtime σ) :
    Action (Runtime σ) :=
  match callback with
  | .resumed => runtime.resumed app files
  | .windowEvent event => runtime.windowEvent app files event
  | .aboutToWait => runtime.aboutToWait
  | .exiting => runtime.exiting app

/-- Begin a run. -/
def start (window : WindowSettings) (context : ContextSettings) (state : σ) :
    Action (Except RunError (Runtime σ)) := do
  match ← Action.window .openEventLoop with
  | some reason => return .error (.eventLoop reason)
  | none => return .ok { window, context, app := state }

/-- How a run ended, once the event loop returned. -/
def result (runtime : Runtime σ) : Action (Except RunError Unit) := do
  match ← Action.window .eventLoopResult with
  | some reason => return .error (.loopResult reason)
  | none => return runtime.failure.elim (.ok ()) fun error => .error (.window error)

/-- Release what a run still holds: the application first, then its window. -/
def release (app : App σ) (runtime : Runtime σ) : Action Unit := do
  app.release runtime.app
  match runtime.entry with
  | none => return ()
  | some entry => entry.surface.drop

/-- Carry out callbacks in order. One that aborts ends the run, which then releases what it held. -/
def deliverAll (app : App σ) : List (Files × LoopCallback) → Runtime σ → Action (Runtime σ)
  | [], runtime => return runtime
  | (files, callback) :: rest, runtime => do
    let runtime ← (runtime.deliver app files callback).onAbort (runtime.release app)
    deliverAll app rest runtime

/-- Run an application over the callbacks of an event loop, each with the files as they are then. -/
def run (app : App σ) (window : WindowSettings) (context : ContextSettings) (state : σ)
    (callbacks : List (Files × LoopCallback)) : Action (Except RunError Unit) := do
  match ← start window context state with
  | .error error =>
    app.release state
    return .error error
  | .ok runtime =>
    let runtime ← deliverAll app callbacks runtime
    let result ← runtime.result
    runtime.release app
    return result

end Runtime

end Shaderbox
