import Shaderbox.Effect
import Shaderbox.Text.Quoted

/-!
# Owned graphics objects

A handle owns one object of the device, which is deleted when the handle is released. Attaching
a shader to a program consumes the shader's handle: the program keeps what was compiled, and the
shader object is deleted right away.
-/

namespace Shaderbox

/-- An owned shader object. -/
structure ShaderHandle where
  id : ShaderId
  stage : Stage
deriving DecidableEq

/-- An owned program object and its name in messages. -/
structure ProgramHandle where
  id : ProgramId
  label : String
deriving DecidableEq

/-- An owned vertex array object. -/
structure VertexArrayHandle where
  id : VertexArrayId
deriving DecidableEq

namespace ShaderHandle

/-- Create a shader object, or give the reason why there is none. -/
def create (stage : Stage) : Action (Except String ShaderHandle) := do
  return (← Action.graphics (.createShader stage)).map fun id => ⟨id, stage⟩

/-- Delete the shader object. -/
def release (shader : ShaderHandle) : Action Unit :=
  Action.graphics (.deleteShader shader.id)

end ShaderHandle

namespace ProgramHandle

/-- Create a program object, or give the reason why there is none. -/
def create (label : String) : Action (Except String ProgramHandle) := do
  return (← Action.graphics .createProgram).map fun id => ⟨id, label⟩

/-- Delete the program object. -/
def release (program : ProgramHandle) : Action Unit :=
  Action.graphics (.deleteProgram program.id)

/-- Attach a compiled shader and release it. -/
def attach (program : ProgramHandle) (shader : ShaderHandle) : Action Unit := do
  Action.graphics (.attachShader program.id shader.id)
  shader.release

/-- Draw with this program from now on. -/
def bind (program : ProgramHandle) : Action Unit :=
  Action.graphics (.useProgram (some program.id))

end ProgramHandle

namespace VertexArrayHandle

/-- Create a vertex array object, or give the reason why there is none. -/
def create : Action (Except String VertexArrayHandle) := do
  return (← Action.graphics .createVertexArray).map fun id => ⟨id⟩

/-- Delete the vertex array object. -/
def release (array : VertexArrayHandle) : Action Unit :=
  Action.graphics (.deleteVertexArray array.id)

/-- Draw with this vertex array from now on. -/
def bind (array : VertexArrayHandle) : Action Unit :=
  Action.graphics (.bindVertexArray (some array.id))

/-- Draw with no vertex array from now on. -/
def unbind (_ : VertexArrayHandle) : Action Unit :=
  Action.graphics (.bindVertexArray none)

end VertexArrayHandle

/-- How the number of an object is written in inspected values: alone, or wrapped in the name of the
native type of its kind. -/
inductive NumberStyle where
  | bare
  | native
deriving DecidableEq

/-- A number in a style, for objects of the given native type. -/
def NumberStyle.text (style : NumberStyle) (type : String) (number : Nat) : String :=
  match style with
  | .bare => toString number
  | .native => type ++ "(" ++ toString number ++ ")"

/-- A shader handle as an inspected value. -/
def ShaderHandle.inspect (style : NumberStyle) (shader : ShaderHandle) : String :=
  "ShaderHandle \x7b raw: " ++ style.text "NativeShader" shader.id.number ++ ", stage: " ++
    shader.stage.inspect ++ " \x7d"

/-- A program handle as an inspected value. -/
def ProgramHandle.inspect (style : NumberStyle) (program : ProgramHandle) : String :=
  "ProgramHandle \x7b raw: " ++ style.text "NativeProgram" program.id.number ++ ", label: " ++
    Text.quoted program.label ++ " \x7d"

/-- An owned object of any kind. -/
inductive Handle where
  | shader (handle : ShaderHandle)
  | program (handle : ProgramHandle)
  | vertexArray (handle : VertexArrayHandle)
deriving DecidableEq

namespace Handle

/-- Delete the object. -/
def release : Handle → Action Unit
  | .shader handle => handle.release
  | .program handle => handle.release
  | .vertexArray handle => handle.release

end Handle

end Shaderbox
