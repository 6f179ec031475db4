import Shaderbox.Graphics.Call
import Shaderbox.Input.Context
import Shaderbox.Log
import Shaderbox.Window.Call

/-!
# What programs ask of the world

One interface holds everything that a program of the engine can do: call the graphics device, ask
the window system, write a log record, and consult an observer. Observers stand in for parts that
a client supplies, a particle simulation or an application, and decide what those do.

The graphics part is a parameter, so that the same program can be carried out against the graphics
interface or, call by call, against raw ones.
-/

namespace Shaderbox

/-- What an application wants next. -/
inductive Control where
  | continue
  | exit
deriving DecidableEq, Repr

/-- What an application sees of a frame. -/
structure FrameView where
  size : PixelSize
  aspect : Float32
  data : EventData
  index : UInt64

/-- A callback that an observer is consulted on. -/
inductive Observation where
  | particlesInit
  | particlesDeinit
  | particlesUpdate (dt : Float32) (view : Mat4)
  | particlesRender (view viewProjection : Mat4)
  /-- Answered with a reason to fail, if there is one. -/
  | contextReady (size : PixelSize)
  | input (event : InputEvent)
  | windowEvent (kind : String)
  /-- Answered with a title for the window, if it is to be changed. -/
  | frame (view : FrameView)
  /-- What a frame returns at its end. -/
  | frameControl
  | teardown

/-- What an observer decides. -/
@[reducible] def Observation.Answer : Observation → Type
  | .contextReady _ => Option String
  | .input _ => Control
  | .windowEvent _ => Control
  | .frame _ => Option String
  | .frameControl => Control
  | _ => Unit

/-- A request to the world, where `G` is the graphics interface. -/
inductive Request (G : Interface) where
  | graphics (call : G.Request)
  | window (call : WindowCall)
  | log (record : LogRecord)
  | observe (observation : Observation)

/-- What a request gives back. -/
@[reducible] def Request.Answer {G : Interface} : Request G → Type
  | .graphics call => G.Answer call
  | .window call => call.Answer
  | .log _ => Unit
  | .observe observation => observation.Answer

/-- Everything that a program can do. -/
@[reducible] def Effects (G : Interface) : Interface := ⟨Request G, Request.Answer⟩

/-- A program of the engine. -/
abbrev Action := Interaction (Effects Graphics)

namespace Action

/-- Call the graphics device. -/
def graphics (call : GraphicsCall) : Action call.Answer :=
  Interaction.request (I := Effects Graphics) (.graphics call)

/-- Ask the window system. -/
def window (call : WindowCall) : Action call.Answer :=
  Interaction.request (I := Effects Graphics) (.window call)

/-- Consult the observer. -/
def observe (observation : Observation) : Action observation.Answer :=
  Interaction.request (I := Effects Graphics) (.observe observation)

/-- Write a log record. -/
def log (level : LogLevel) (message : String) : Action Unit :=
  Interaction.request (I := Effects Graphics) (.log ⟨level, message⟩)

/-- Write log records in order. -/
def logAll : List LogRecord → Action Unit
  | [] => .done ()
  | record :: rest => (log record.level record.message).bind fun _ => logAll rest

end Action

end Shaderbox
