import Shaderbox.Abort

/-!
# The frame clock

Times and durations are counted in nanoseconds. The time of a frame is the distance to the last
tick, kept between two bounds; the elapsed time is counted from the start, which a reset of the
baseline leaves alone. Neither is ever negative, however the clock of the system jumps.
-/

namespace Shaderbox

/-- How many nanoseconds there are in a second. -/
def nanosecondsPerSecond : Nat := 1000000000

/-- A length of time in nanoseconds. -/
structure Duration where
  nanoseconds : Nat
deriving DecidableEq, Repr

namespace Duration

/-- The time from one instant to another, or none at all if that is earlier. -/
def between (start finish : Int) : Duration := ⟨(finish - start).toNat⟩

/-- Keep a duration between two bounds. -/
def clamp (time low high : Duration) : Duration :=
  ⟨min (max time.nanoseconds low.nanoseconds) high.nanoseconds⟩

/-- The duration in seconds: whole seconds and the rest are rounded on their own. -/
def seconds (time : Duration) : Float32 :=
  Float32.ofNat (time.nanoseconds / nanosecondsPerSecond) +
    Float32.ofNat (time.nanoseconds % nanosecondsPerSecond) / Float32.ofNat nanosecondsPerSecond

end Duration

/-- The timing of one frame. -/
structure FrameTime where
  dt : Duration
  elapsed : Duration
  index : UInt64
deriving DecidableEq

/-- A clock that times frames. -/
structure FrameClock where
  start : Int
  last : Int
  index : UInt64
  least : Duration
  greatest : Duration
deriving DecidableEq

namespace FrameClock

/-- A clock with bounds on the time of a frame, started at an instant. -/
def withBounds (least greatest : Duration) (now : Int) : Except Abort FrameClock :=
  if least.nanoseconds ≤ greatest.nanoseconds then .ok ⟨now, now, 0, least, greatest⟩
  else .error .invalidClockBounds

/-- The standard clock: a frame takes between a tenth of a millisecond and a tenth of a second. -/
def standard (now : Int) : FrameClock := ⟨now, now, 0, ⟨100000⟩, ⟨100000000⟩⟩

/-- Measure the next frame from the given instant. -/
def reset (clock : FrameClock) (now : Int) : FrameClock := { clock with last := now }

/-- Time a frame. -/
def tick (clock : FrameClock) (now : Int) : FrameTime × FrameClock :=
  ({ dt := (Duration.between clock.last now).clamp clock.least clock.greatest
     elapsed := .between clock.start now
     index := clock.index },
    { clock with last := now, index := clock.index + 1 })

end FrameClock

end Shaderbox
