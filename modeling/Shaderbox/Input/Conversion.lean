import Shaderbox.Abort
import Shaderbox.Input.Event

/-!
# Input events made of window events

Events that the input layer does not model give nothing. The scale factor matters only where
positions are converted, and only there must it be a normal positive number.
-/

namespace Shaderbox

/-- Whether a number is positive and neither zero, subnormal, infinite nor undefined. -/
def isNormalPositive (x : Float) : Bool :=
  let bits := x.toBits.toNat
  let exponent := bits / 0x10000000000000
  0 < exponent && exponent < 2047

/-- Convert a physical position to logical pixels. -/
def toLogical (scaleFactor x y : Float) : Except Abort (Float32 × Float32) :=
  if isNormalPositive scaleFactor then
    .ok ((x / scaleFactor).toFloat32, (y / scaleFactor).toFloat32)
  else .error .invalidScaleFactor

/-- The input event that a window event stands for, if any. -/
def WindowEvent.input (scaleFactor : Float) :
    WindowEvent → Except Abort (Option InputEvent)
  | .focused gained => .ok (some (.focused gained))
  | .cursorMoved x y =>
    (toLogical scaleFactor x y).map fun (x, y) => some (.pointer x y)
  | .button which pressed => .ok (some (.button which pressed))
  | .wheel (.lines x y) => .ok (some (.wheel (.lines x y)))
  | .wheel (.pixels x y) =>
    (toLogical scaleFactor x y).map fun (x, y) => some (.wheel (.pixels x y))
  | .keyboard position pressed repeated => .ok (some (.key position.key pressed repeated))
  | _ => .ok none

end Shaderbox
