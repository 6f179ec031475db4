import Shaderbox.Space.Vector

/-!
# Transformations

Four by four matrices are kept by columns, in the order in which they are uploaded, so that
an upload never transposes.
-/

namespace Shaderbox

/-- Four single-precision numbers: a column of a matrix, or a color. -/
structure Vec4 where
  x : Float32
  y : Float32
  z : Float32
  w : Float32
deriving DecidableEq

namespace Vec4

/-- The components in order. -/
def toList (a : Vec4) : List Float32 := [a.x, a.y, a.z, a.w]

/-- Two are equal when their components compare equal as numbers. -/
instance : BEq Vec4 := ⟨fun a b => a.x == b.x && a.y == b.y && a.z == b.z && a.w == b.w⟩

end Vec4

/-- A four by four matrix, by columns. -/
structure Mat4 where
  first : Vec4
  second : Vec4
  third : Vec4
  fourth : Vec4
deriving DecidableEq

namespace Mat4

/-- The matrix that changes nothing. -/
def identity : Mat4 := ⟨⟨1, 0, 0, 0⟩, ⟨0, 1, 0, 0⟩, ⟨0, 0, 1, 0⟩, ⟨0, 0, 0, 1⟩⟩

/-- All sixteen elements, column after column. -/
def toList (m : Mat4) : List Float32 :=
  m.first.toList ++ m.second.toList ++ m.third.toList ++ m.fourth.toList

/-- Two are equal when their elements compare equal as numbers. -/
instance : BEq Mat4 :=
  ⟨fun a b =>
    a.first == b.first && a.second == b.second && a.third == b.third && a.fourth == b.fourth⟩

/-- Stretch along the axes. -/
def ofScale (s : Vec3) : Mat4 := ⟨⟨s.x, 0, 0, 0⟩, ⟨0, s.y, 0, 0⟩, ⟨0, 0, s.z, 0⟩, ⟨0, 0, 0, 1⟩⟩

/-- Move by a vector. -/
def ofShift (t : Vec3) : Mat4 :=
  ⟨⟨1, 0, 0, 0⟩, ⟨0, 1, 0, 0⟩, ⟨0, 0, 1, 0⟩, ⟨t.x, t.y, t.z, 1⟩⟩

/-- Perspective projection of a right-handed space to depths between -1 and 1. -/
def perspective (fovY aspect near far : Float32) : Mat4 :=
  let f := 1 / (0.5 * fovY).tan
  let range := near - far
  ⟨⟨f / aspect, 0, 0, 0⟩, ⟨0, f, 0, 0⟩, ⟨0, 0, (far + near) / range, -1⟩,
    ⟨0, 0, 2 * far * near / range, 0⟩⟩

/-- View from `eye` towards `target`. -/
def lookAt (eye target upward : Vec3) : Mat4 :=
  let f := (target - eye).normalized
  let s := (f.cross upward).normalized
  let u := s.cross f
  ⟨⟨s.x, u.x, -f.x, 0⟩, ⟨s.y, u.y, -f.y, 0⟩, ⟨s.z, u.z, -f.z, 0⟩,
    ⟨-(s.dot eye), -(u.dot eye), f.dot eye, 1⟩⟩

/-- A sum from left to right, begun at negative zero, which adds nothing to any number. -/
def sum (a b c d : Float32) : Float32 := -0.0 + a + b + c + d

/-- Apply the matrix to a column. -/
def apply (m : Mat4) (v : Vec4) : Vec4 :=
  ⟨sum (m.first.x * v.x) (m.second.x * v.y) (m.third.x * v.z) (m.fourth.x * v.w),
    sum (m.first.y * v.x) (m.second.y * v.y) (m.third.y * v.z) (m.fourth.y * v.w),
    sum (m.first.z * v.x) (m.second.z * v.y) (m.third.z * v.z) (m.fourth.z * v.w),
    sum (m.first.w * v.x) (m.second.w * v.y) (m.third.w * v.z) (m.fourth.w * v.w)⟩

/-- The product applies the left matrix to the columns of the right one. -/
instance : Mul Mat4 :=
  ⟨fun a b => ⟨a.apply b.first, a.apply b.second, a.apply b.third, a.apply b.fourth⟩⟩

/-- Stretch by one factor first. -/
def scaledEvenly (m : Mat4) (factor : Float32) : Mat4 := m * ofScale (.splat factor)

/-- Stretch along the axes first. -/
def scaled (m : Mat4) (s : Vec3) : Mat4 := m * ofScale s

/-- Transform a point, dividing by its last coordinate unless that is next to zero. -/
def transformPoint (m : Mat4) (p : Vec3) : Vec3 :=
  let coordinate := fun (a b c d : Float32) => a * p.x + b * p.y + c * p.z + d
  let x := coordinate m.first.x m.second.x m.third.x m.fourth.x
  let y := coordinate m.first.y m.second.y m.third.y m.fourth.y
  let z := coordinate m.first.z m.second.z m.third.z m.fourth.z
  let w := coordinate m.first.w m.second.w m.third.w m.fourth.w
  if singleEpsilon < w.abs then ⟨x / w, y / w, z / w⟩ else ⟨x, y, z⟩

end Mat4

end Shaderbox
