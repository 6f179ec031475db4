/-!
# Stages of the programmable pipeline
-/

namespace Shaderbox

/-- A stage of the programmable pipeline. -/
inductive Stage where
  | vertex
  | geometry
  | fragment
deriving DecidableEq, Repr

namespace Stage

/-- The stage's name in messages. -/
def label : Stage → String
  | .vertex => "vertex"
  | .geometry => "geometry"
  | .fragment => "fragment"

/-- The stage's name in inspected values. -/
def inspect : Stage → String
  | .vertex => "Vertex"
  | .geometry => "Geometry"
  | .fragment => "Fragment"

/-- All stages, in the order in which a program compiles them. -/
def all : List Stage := [.vertex, .geometry, .fragment]

end Stage

end Shaderbox
