/-!
# Vectors in world space

World space is right-handed with the second axis up. All arithmetic is single precision, each
operation rounded on its own.
-/

namespace Shaderbox

/-- Distance from one to the next single-precision number. -/
def singleEpsilon : Float32 := Float32.ofBits 0x34000000

/-- A vector or point in world units. -/
structure Vec3 where
  x : Float32
  y : Float32
  z : Float32

namespace Vec3

/-- The upward direction. -/
def up : Vec3 := ⟨0, 1, 0⟩

/-- The origin. -/
def zero : Vec3 := ⟨0, 0, 0⟩

/-- A vector with three equal components. -/
def splat (value : Float32) : Vec3 := ⟨value, value, value⟩

instance : Add Vec3 := ⟨fun a b => ⟨a.x + b.x, a.y + b.y, a.z + b.z⟩⟩
instance : Sub Vec3 := ⟨fun a b => ⟨a.x - b.x, a.y - b.y, a.z - b.z⟩⟩
instance : Neg Vec3 := ⟨fun a => ⟨-a.x, -a.y, -a.z⟩⟩

/-- Two vectors are equal when their components compare equal as numbers. -/
instance : BEq Vec3 := ⟨fun a b => a.x == b.x && a.y == b.y && a.z == b.z⟩

/-- Stretch a vector. -/
def scale (a : Vec3) (factor : Float32) : Vec3 := ⟨a.x * factor, a.y * factor, a.z * factor⟩

/-- Inner product. -/
def dot (a b : Vec3) : Float32 := a.x * b.x + a.y * b.y + a.z * b.z

/-- Cross product. -/
def cross (a b : Vec3) : Vec3 :=
  ⟨a.y * b.z - a.z * b.y, a.z * b.x - a.x * b.z, a.x * b.y - a.y * b.x⟩

/-- Euclidean length. -/
def length (a : Vec3) : Float32 := (a.dot a).sqrt

/-- The unit vector of the same direction, or zero for one that is too short to have any. -/
def normalized (a : Vec3) : Vec3 :=
  if singleEpsilon < a.length then a.scale (1 / a.length) else zero

end Vec3

end Shaderbox
