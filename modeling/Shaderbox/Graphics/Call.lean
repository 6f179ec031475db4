import Shaderbox.Graphics.Stage
import Shaderbox.Interaction
import Shaderbox.Space.Matrix

/-!
# The graphics interface

The calls that the engine makes on a graphics device, and the type of what each gives back.
-/

namespace Shaderbox

/-- A shader object of the device. -/
structure ShaderId where
  number : Nat
deriving DecidableEq, Repr

/-- A program object of the device. -/
structure ProgramId where
  number : Nat
deriving DecidableEq, Repr

/-- A vertex array object of the device. -/
structure VertexArrayId where
  number : Nat
deriving DecidableEq, Repr

/-- Where a program keeps a uniform. -/
structure UniformLocation where
  number : Nat
deriving DecidableEq, Repr

/-- How drawn colors are combined with what is there. -/
inductive BlendMode where
  | disabled
  /-- The source, weighted by its opacity, is added. -/
  | additive
  /-- The source, weighted by its opacity, covers what is there. -/
  | alpha
deriving DecidableEq, Repr

/-- A call on a graphics device. -/
inductive GraphicsCall where
  | createShader (stage : Stage)
  | shaderSource (shader : ShaderId) (source : String)
  | compileShader (shader : ShaderId)
  | compileStatus (shader : ShaderId)
  | shaderLog (shader : ShaderId)
  | deleteShader (shader : ShaderId)
  | createProgram
  | attachShader (program : ProgramId) (shader : ShaderId)
  | linkProgram (program : ProgramId)
  | linkStatus (program : ProgramId)
  | programLog (program : ProgramId)
  | validateProgram (program : ProgramId)
  | validateStatus (program : ProgramId)
  | deleteProgram (program : ProgramId)
  | useProgram (program : Option ProgramId)
  | uniformLocation (program : ProgramId) (name : String)
  | setUniformSingle (location : UniformLocation) (value : Float32)
  | setUniformVec4 (location : UniformLocation) (value : Vec4)
  | setUniformMat4 (location : UniformLocation) (value : Mat4)
  | createVertexArray
  | bindVertexArray (array : Option VertexArrayId)
  | deleteVertexArray (array : VertexArrayId)
  | drawLines (first count : Int)
  | drawPoints (first count : Int)
  | setViewport (width height : Int)
  | setClearColor (color : Vec4)
  | clear
  | setDepthTest (enabled : Bool)
  | setBlend (mode : BlendMode)
  | enableProgramPointSize
  /-- Takes the oldest pending error code; zero means that there is none. -/
  | lastError
deriving DecidableEq

/-- What a call gives back. A refused creation gives the reason in words. -/
@[reducible] def GraphicsCall.Answer : GraphicsCall → Type
  | .createShader _ => Except String ShaderId
  | .createProgram => Except String ProgramId
  | .createVertexArray => Except String VertexArrayId
  | .compileStatus _ => Bool
  | .linkStatus _ => Bool
  | .validateStatus _ => Bool
  | .shaderLog _ => String
  | .programLog _ => String
  | .uniformLocation .. => Option UniformLocation
  | .lastError => Nat
  | _ => Unit

/-- The graphics interface. -/
@[reducible] def Graphics : Interface := ⟨GraphicsCall, GraphicsCall.Answer⟩

end Shaderbox
