import Shaderbox.Number.Written

/-!
# Ways a program ends without a result

A broken promise of the caller, or of the platform, stops a program where it stands: what it
holds is released on the way out. A fatal graphics error ends the whole process instead, and
nothing is released.
-/

namespace Shaderbox

/-- Why a program ended without a result. -/
inductive Abort where
  /-- A sum left its range. -/
  | additionOverflow
  /-- A product left its range. -/
  | multiplicationOverflow
  /-- A buffer was asked for that no memory can hold. -/
  | capacityOverflow
  /-- A window reported a scale factor that is not a normal positive number. -/
  | invalidScaleFactor
  /-- A number was to be clamped to bounds that enclose nothing. -/
  | invalidBounds (low high : Float32)
  /-- A clock was given a least frame time above the greatest. -/
  | invalidClockBounds
  /-- The display offered no configuration to pick from. -/
  | noDisplayConfig
  /-- A name was to be handed to the device that holds a character which would end it. -/
  | interruptedName (name : String)
  /-- The process ended with this exit code. -/
  | exit (code : Nat)

namespace Abort

/-- What is reported about the cause. -/
def message : Abort → String
  | .additionOverflow => "attempt to add with overflow"
  | .multiplicationOverflow => "attempt to multiply with overflow"
  | .capacityOverflow => "capacity overflow"
  | .invalidScaleFactor => "assertion failed: validate_scale_factor(scale_factor)"
  | .invalidBounds low high =>
    "min > max, or either was NaN. min = " ++ Number.inspected.text low ++
      ", max = " ++ Number.inspected.text high
  | .invalidClockBounds => "assertion failed: dt_min <= dt_max"
  | .noDisplayConfig => "GL display offered no configs"
  | .interruptedName name =>
    let octets := name.toUTF8.toList.map UInt8.toNat
    "called `Result::unwrap()` on an `Err` value: NulError(" ++ toString (octets.idxOf 0) ++
      ", [" ++ ", ".intercalate (octets.map fun octet => toString octet) ++ "])"
  | .exit code => "exit " ++ toString code

/-- Whether what a program holds is released on the way out. -/
def releases : Abort → Bool
  | .exit _ => false
  | _ => true

end Abort

end Shaderbox
