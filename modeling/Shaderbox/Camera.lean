import Shaderbox.Abort
import Shaderbox.Input.Context
import Shaderbox.Space.Matrix

/-!
# The orbit camera

The camera looks at a target from a distance and two angles. Scrolling changes the distance. A
drag is the difference to the last frame in which the cursor moved, whatever was held then: with
the rotate flag it changes the angles, otherwise with the pan flag it moves the target.
-/

namespace Shaderbox

/-- Keep a number between bounds, which must enclose something. -/
def clampSingle (x low high : Float32) : Except Abort Float32 :=
  if low ≤ high then
    let x := if x < low then low else x
    .ok (if high < x then high else x)
  else .error (.invalidBounds low high)

/-- The greater of a number and a bound; a number that is undefined gives the bound. -/
def atLeast (bound x : Float32) : Float32 :=
  if bound ≤ x then x else bound

/-- A camera that orbits a target. -/
structure OrbitCamera where
  target : Vec3 := .zero
  distance : Float32 := 150
  /-- An eighth of a turn. -/
  yaw : Float32 := Float32.ofBits 0x3f490fdb
  pitch : Float32 := 0.35
  minDistance : Float32 := 5
  maxDistance : Float32 := 1000
  /-- A sixth of a turn. -/
  fovY : Float32 := Float32.ofBits 0x3f860a92
  near : Float32 := 0.1
  far : Float32 := 2000
  /-- Where the cursor was in the last frame in which it moved. -/
  lastMouse : Option (Float32 × Float32) := none

namespace OrbitCamera

/-- Radians per logical pixel of a drag. -/
def rotateSpeed : Float32 := 0.005

/-- Part of the distance that a logical pixel of a drag pans. -/
def panSpeed : Float32 := 0.0015

/-- Part of the distance that a unit of scroll zooms. -/
def zoomSpeed : Float32 := 0.2

/-- Greatest pitch: a little less than a quarter of a turn. -/
def pitchLimit : Float32 := Float32.ofBits 0x3fc90fdb - 0.01

/-- Where the camera is. -/
def eye (camera : OrbitCamera) : Vec3 :=
  let across := camera.pitch.cos
  let direction := Vec3.mk (across * camera.yaw.sin) camera.pitch.sin (across * camera.yaw.cos)
  camera.target + direction.scale camera.distance

/-- View matrix. -/
def view (camera : OrbitCamera) : Mat4 :=
  .lookAt camera.eye camera.target .up

/-- Projection matrix for a window of the given aspect ratio. -/
def projection (camera : OrbitCamera) (aspect : Float32) : Mat4 :=
  .perspective camera.fovY aspect camera.near camera.far

/-- Zoom by an amount of scroll. -/
def zoom (camera : OrbitCamera) (wheelDelta : Float32) : Except Abort OrbitCamera :=
  if wheelDelta == 0 then .ok camera
  else do
    let factor := atLeast 0.1 (1 - zoomSpeed * wheelDelta)
    let distance ← clampSingle (camera.distance * factor) camera.minDistance camera.maxDistance
    return { camera with distance }

/-- Turn by a drag. -/
def rotate (camera : OrbitCamera) (dx dy : Float32) : Except Abort OrbitCamera := do
  let pitch ← clampSingle (camera.pitch + dy * rotateSpeed) (-pitchLimit) pitchLimit
  return { camera with yaw := camera.yaw - dx * rotateSpeed, pitch }

/-- Move the target by a drag, across the line of sight. -/
def pan (camera : OrbitCamera) (dx dy : Float32) : OrbitCamera :=
  let forward := (camera.target - camera.eye).normalized
  let right := (forward.cross .up).normalized
  let upward := right.cross forward
  let scale := panSpeed * camera.distance
  { camera with
    target := camera.target - right.scale (dx * scale) + upward.scale (dy * scale) }

/-- Apply a drag according to the flags that are held. -/
def drag (camera : OrbitCamera) (data : EventData) (dx dy : Float32) :
    Except Abort OrbitCamera :=
  if data.rotatePressed then camera.rotate dx dy
  else if data.panPressed then .ok (camera.pan dx dy)
  else .ok camera

/-- Apply the input of one frame. -/
def update (camera : OrbitCamera) (data : EventData) : Except Abort OrbitCamera := do
  let camera ← camera.zoom data.wheelDelta
  if data.mouseMoved then
    let moved := { camera with lastMouse := some (data.mouseX, data.mouseY) }
    match camera.lastMouse with
    | none => return moved
    | some (x, y) => moved.drag data (data.mouseX - x) (data.mouseY - y)
  else return camera

end OrbitCamera

end Shaderbox
