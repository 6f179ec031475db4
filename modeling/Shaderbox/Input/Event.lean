import Shaderbox.Input.Key

/-!
# Input events

What the window system delivers, as far as the engine looks at it, and the input events made of
it. Positions arrive in physical pixels and leave in logical ones.
-/

namespace Shaderbox

/-- A mouse button. -/
inductive MouseButton where
  | left
  | right
  | middle
  | back
  | forward
  | other (number : Nat)
deriving DecidableEq, Repr

namespace MouseButton

/-- The buttons that have a name. -/
def named : List (String × MouseButton) :=
  [("Left", .left), ("Right", .right), ("Middle", .middle), ("Back", .back), ("Forward", .forward)]

/-- The button with a given name. -/
def ofName? (name : String) : Option MouseButton := named.lookup name

/-- The button's name. -/
def name : MouseButton → String
  | .other number => s!"Other({number})"
  | button => ((named.find? (·.2 = button)).map (·.1)).getD ""

end MouseButton

/-- An amount of scrolling: lines of a notched wheel, or logical pixels of a touchpad. -/
inductive Scroll where
  | lines (x y : Float32)
  | pixels (x y : Float32)

namespace Scroll

/-- Logical pixels that count as one line. -/
def pixelsPerLine : Float32 := 20

/-- Vertical scroll in lines. -/
def linesY : Scroll → Float32
  | .lines _ y => y
  | .pixels _ y => y / pixelsPerLine

end Scroll

/-- An input event. -/
inductive InputEvent where
  /-- A key went down, again and again while it is held, or up. -/
  | key (key : Key) (pressed repeated : Bool)
  /-- The cursor moved to a position in logical pixels from the top left. -/
  | pointer (x y : Float32)
  | button (button : MouseButton) (pressed : Bool)
  | wheel (scroll : Scroll)
  | focused (gained : Bool)

/-- Width and height in physical pixels. -/
structure PixelSize where
  width : Nat
  height : Nat
deriving DecidableEq, Repr

namespace PixelSize

/-- The size itself, unless the window has no area. -/
def nonzero? (size : PixelSize) : Option PixelSize :=
  if size.width = 0 ∨ size.height = 0 then none else some size

end PixelSize

/-- A scroll as the window system reports it: pixels are physical. -/
inductive WindowScroll where
  | lines (x y : Float32)
  | pixels (x y : Float)

/-- An event of the window system. -/
inductive WindowEvent where
  | focused (gained : Bool)
  | cursorMoved (x y : Float)
  | button (button : MouseButton) (pressed : Bool)
  | wheel (scroll : WindowScroll)
  | keyboard (position : KeyPosition) (pressed repeated : Bool)
  | resized (size : PixelSize)
  | scaleFactorChanged
  | closeRequested
  | redrawRequested
  /-- Any other event, by the name of its kind. -/
  | other (kind : String)

/-- The name of the kind of an event. -/
def WindowEvent.kind : WindowEvent → String
  | .focused _ => "Focused"
  | .cursorMoved .. => "CursorMoved"
  | .button .. => "MouseInput"
  | .wheel _ => "MouseWheel"
  | .keyboard .. => "KeyboardInput"
  | .resized _ => "Resized"
  | .scaleFactorChanged => "ScaleFactorChanged"
  | .closeRequested => "CloseRequested"
  | .redrawRequested => "RedrawRequested"
  | .other kind => kind

end Shaderbox
