import Shaderbox.Input.Event
import Shaderbox.Number.Written

/-!
# The input state of a window

The pointer is tracked for every event; then the bindings run in the order in which they were
added. The standard bindings keep one flag for each source of the pan flag, so that
releasing one of them does not end what the other still holds.
-/

namespace Shaderbox

/-- The input state that a frame reads. -/
structure EventData where
  /-- Scroll of this frame; cleared for every frame. -/
  wheelDelta : Float32 := 0
  /-- Last cursor position, in logical pixels. -/
  mouseX : Float32 := 0
  mouseY : Float32 := 0
  /-- Whether the cursor moved in this frame; cleared for every frame. -/
  mouseMoved : Bool := false
  rotatePressed : Bool := false
  panPressed : Bool := false
  /-- Changed by every press of the space bar. -/
  spaceToggled : Bool := false
  exitRequested : Bool := false

/-- Which sources of the pan flag are held down. -/
structure HeldSources where
  control : Bool := false
  middle : Bool := false
deriving DecidableEq

/-- Scroll that one line amounts to. -/
def wheelScale : Float32 := 0.5

namespace HeldSources

/-- What an event does to the sources held. -/
def after (held : HeldSources) : InputEvent → HeldSources
  | .key .controlLeft pressed _ => { held with control := pressed }
  | .button .middle pressed => { held with middle := pressed }
  | .focused false => {}
  | _ => held

/-- What an event does to the input state before the pan flag is set. -/
def effect (data : EventData) : InputEvent → EventData
  | .key .escape true _ => { data with exitRequested := true }
  | .key .space true false => { data with spaceToggled := !data.spaceToggled }
  | .button .right pressed => { data with rotatePressed := pressed }
  | .wheel scroll => { data with wheelDelta := wheelScale * scroll.linesY }
  | .focused false => { data with rotatePressed := false }
  | _ => data

/-- The standard bindings: Escape exits, Space toggles, the right button rotates, the middle button
or left Control pans, and scrolling zooms. Losing the focus releases everything. -/
def react (held : HeldSources) (data : EventData) (event : InputEvent) : HeldSources × EventData :=
  let held := held.after event
  (held, { effect data event with panPressed := held.control || held.middle })

end HeldSources

/-- Something that runs for every input event. -/
inductive Binding where
  | standard (held : HeldSources)
  | stateless (react : EventData → InputEvent → EventData)

/-- Run a binding for an event. -/
def Binding.react (event : InputEvent) : Binding → EventData → Binding × EventData
  | .standard held, data =>
    let (held, data) := held.react data event
    (.standard held, data)
  | .stateless react, data => (.stateless react, react data event)

/-- The input state of a window and its bindings. -/
structure EventContext where
  data : EventData
  bindings : List Binding

namespace EventContext

/-- A context that only tracks the pointer. -/
def withoutBindings : EventContext := ⟨{}, []⟩

/-- A context with the standard bindings. -/
def standard : EventContext := ⟨{}, [.standard {}]⟩

/-- Add a binding behind those present. -/
def addBinding (context : EventContext) (binding : Binding) : EventContext :=
  { context with bindings := context.bindings ++ [binding] }

/-- Clear what belongs to one frame. -/
def beginFrame (context : EventContext) : EventContext :=
  { context with data := { context.data with wheelDelta := 0, mouseMoved := false } }

/-- Ask for the end of the run, as pressing Escape does. -/
def requestExit (context : EventContext) : EventContext :=
  { context with data := { context.data with exitRequested := true } }

/-- What an event does to the cursor. -/
def track (data : EventData) : InputEvent → EventData
  | .pointer x y => { data with mouseX := x, mouseY := y, mouseMoved := true }
  | _ => data

/-- Run bindings one after the other on the input state. -/
def runBindings (event : InputEvent) : List Binding → EventData → List Binding × EventData
  | [], data => ([], data)
  | binding :: rest, data =>
    let (binding, data) := binding.react event data
    let (rest, data) := runBindings event rest data
    (binding :: rest, data)

/-- Take in one event. -/
def handle (context : EventContext) (event : InputEvent) : EventContext :=
  let (bindings, data) := runBindings event context.bindings (track context.data event)
  ⟨data, bindings⟩

/-- The context as an inspected value. -/
def inspect (context : EventContext) : String :=
  let data := context.data
  let number := Number.inspected.text
  "EventContext \x7b data: EventData \x7b wheel_delta: " ++ number data.wheelDelta ++
    ", mouse_x: " ++ number data.mouseX ++ ", mouse_y: " ++ number data.mouseY ++
    ", mouse_moved: " ++ toString data.mouseMoved ++
    ", rotate_pressed: " ++ toString data.rotatePressed ++
    ", translate_pressed: " ++ toString data.panPressed ++
    ", space_toggled: " ++ toString data.spaceToggled ++
    ", exit_requested: " ++ toString data.exitRequested ++
    " \x7d, handlers: " ++ toString context.bindings.length ++ " \x7d"

end EventContext

end Shaderbox
