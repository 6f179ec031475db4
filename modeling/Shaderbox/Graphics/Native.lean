import Shaderbox.Effect

/-!
# Raw graphics calls

The graphics interface over the calls of the native library. Objects are plain numbers there, zero
stands for none, and settings are numeric codes. Every call of the graphics interface becomes a
fixed short sequence of raw calls.
-/

namespace Shaderbox

/-! The numeric codes of the native library, by their names there. -/

namespace NativeCode

def vertexShader : Nat := 0x8B31
def geometryShader : Nat := 0x8DD9
def fragmentShader : Nat := 0x8B30
def compileStatus : Nat := 0x8B81
def linkStatus : Nat := 0x8B82
def validateStatus : Nat := 0x8B83
def points : Nat := 0
def lines : Nat := 1
def colorBuffer : Nat := 0x4000
def depthBuffer : Nat := 0x100
def depthTest : Nat := 0x0B71
def blend : Nat := 0x0BE2
def programPointSize : Nat := 0x8642
def add : Nat := 0x8006
def one : Nat := 1
def sourceAlpha : Nat := 0x0302
def oneMinusSourceAlpha : Nat := 0x0303

/-- The code of a stage. -/
def stage : Stage → Nat
  | .vertex => vertexShader
  | .geometry => geometryShader
  | .fragment => fragmentShader

end NativeCode

/-- A call of the native library. -/
inductive NativeCall where
  | createShader (kind : Nat)
  | shaderSource (shader : Nat) (source : String)
  | compileShader (shader : Nat)
  | getShader (shader parameter : Nat)
  | getShaderLog (shader : Nat)
  | deleteShader (shader : Nat)
  | createProgram
  | attachShader (program shader : Nat)
  | linkProgram (program : Nat)
  | getProgram (program parameter : Nat)
  | getProgramLog (program : Nat)
  | validateProgram (program : Nat)
  | deleteProgram (program : Nat)
  | useProgram (program : Nat)
  | getUniformLocation (program : Nat) (name : String)
  | uniformSingle (location : Nat) (value : Float32)
  | uniformVec4 (location : Nat) (value : Vec4)
  | uniformMat4 (location : Nat) (transposed : Bool) (value : Mat4)
  | genVertexArray
  | bindVertexArray (array : Nat)
  | deleteVertexArray (array : Nat)
  | drawArrays (mode : Nat) (first count : Int)
  | viewport (x y width height : Int)
  | clearColor (color : Vec4)
  | clear (mask : Nat)
  | enable (capability : Nat)
  | disable (capability : Nat)
  | blendEquation (mode : Nat)
  | blendFunction (source destination : Nat)
  | getError

/-- What a raw call gives back: the number of a new object, a parameter, a text. -/
@[reducible] def NativeCall.Answer : NativeCall → Type
  | .createShader _ => Nat
  | .createProgram => Nat
  | .genVertexArray => Nat
  | .getShader .. => Int
  | .getProgram .. => Int
  | .getShaderLog _ => String
  | .getProgramLog _ => String
  | .getUniformLocation .. => Int
  | .getError => Nat
  | _ => Unit

/-- The interface of the native library. -/
@[reducible] def Native : Interface := ⟨NativeCall, NativeCall.Answer⟩

/-- A program over raw graphics calls. -/
abbrev NativeAction := Interaction (Effects Native)

namespace NativeAction

/-- Make a raw call. -/
def call (call : NativeCall) : NativeAction call.Answer :=
  Interaction.request (I := Effects Native) (.graphics call)

/-- The object of a creation, unless its number says that there is none. -/
def created {α : Type} (object : Nat → α) (kind : String) (number : Nat) : Except String α :=
  if number = 0 then .error ("Unable to create " ++ kind ++ " object") else .ok (object number)

end NativeAction

open NativeAction in
/-- The raw calls that a call of the graphics interface consists of. -/
def GraphicsCall.native : (request : GraphicsCall) → NativeAction request.Answer
  | .createShader stage =>
    return created ShaderId.mk "Shader" (← call (.createShader (NativeCode.stage stage)))
  | .shaderSource shader source => call (.shaderSource shader.number source)
  | .compileShader shader => call (.compileShader shader.number)
  | .compileStatus shader =>
    return (← call (.getShader shader.number NativeCode.compileStatus)) != 0
  | .shaderLog shader => call (.getShaderLog shader.number)
  | .deleteShader shader => call (.deleteShader shader.number)
  | .createProgram => return created ProgramId.mk "Program" (← call .createProgram)
  | .attachShader program shader => call (.attachShader program.number shader.number)
  | .linkProgram program => call (.linkProgram program.number)
  | .linkStatus program => return (← call (.getProgram program.number NativeCode.linkStatus)) != 0
  | .programLog program => call (.getProgramLog program.number)
  | .validateProgram program => call (.validateProgram program.number)
  | .validateStatus program =>
    return (← call (.getProgram program.number NativeCode.validateStatus)) != 0
  | .deleteProgram program => call (.deleteProgram program.number)
  | .useProgram program => call (.useProgram (program.elim 0 (·.number)))
  | .uniformLocation program name =>
    if name.contains '\x00' then .abort (.interruptedName name)
    else return (← call (.getUniformLocation program.number name)).toNat?.map UniformLocation.mk
  | .setUniformSingle location value => call (.uniformSingle location.number value)
  | .setUniformVec4 location value => call (.uniformVec4 location.number value)
  | .setUniformMat4 location value => call (.uniformMat4 location.number false value)
  | .createVertexArray => return created VertexArrayId.mk "VertexArray" (← call .genVertexArray)
  | .bindVertexArray array => call (.bindVertexArray (array.elim 0 (·.number)))
  | .deleteVertexArray array => call (.deleteVertexArray array.number)
  | .drawLines first count => call (.drawArrays NativeCode.lines first count)
  | .drawPoints first count => call (.drawArrays NativeCode.points first count)
  | .setViewport width height => call (.viewport 0 0 width height)
  | .setClearColor color => call (.clearColor color)
  | .clear => call (.clear (NativeCode.colorBuffer + NativeCode.depthBuffer))
  | .setDepthTest true => call (.enable NativeCode.depthTest)
  | .setDepthTest false => call (.disable NativeCode.depthTest)
  | .setBlend .disabled => call (.disable NativeCode.blend)
  | .setBlend .additive => do
    call (.enable NativeCode.blend)
    call (.blendEquation NativeCode.add)
    call (.blendFunction NativeCode.sourceAlpha NativeCode.one)
  | .setBlend .alpha => do
    call (.enable NativeCode.blend)
    call (.blendEquation NativeCode.add)
    call (.blendFunction NativeCode.sourceAlpha NativeCode.oneMinusSourceAlpha)
  | .enableProgramPointSize => call (.enable NativeCode.programPointSize)
  | .lastError => call .getError

/-- Replace graphics calls by raw calls, and leave all other requests as they are. -/
def Request.native : (request : Request Graphics) → NativeAction request.Answer
  | .graphics call => call.native
  | .window call => Interaction.request (I := Effects Native) (.window call)
  | .log record => Interaction.request (I := Effects Native) (.log record)
  | .observe observation => Interaction.request (I := Effects Native) (.observe observation)

/-- A program over raw graphics calls that does the same. -/
def Action.native {α : Type} (action : Action α) : NativeAction α :=
  action.interpret Request.native

end Shaderbox
