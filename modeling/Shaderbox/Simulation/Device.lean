import Shaderbox.Graphics.Native
import Shaderbox.Text.Search

/-!
# A scripted graphics device

The device takes its answers from a script: how many objects of each kind can still be created,
which sources fail to compile, what the logs say, which uniforms exist and which errors are
pending. Objects of all kinds are numbered together from one; a refused creation uses up no number.
-/

namespace Shaderbox

/-- What a scripted device answers. -/
structure DeviceScript where
  /-- A source that contains this text does not compile. -/
  compileFailMarker : Option String := none
  compileLog : String := "compile log"
  linkLog : String := "link log"
  linkSucceeds : Bool := true
  validateSucceeds : Bool := true
  /-- How many more objects can be created; any number, when there is none. -/
  shadersLeft : Option Nat := none
  programsLeft : Option Nat := none
  vertexArraysLeft : Option Nat := none
  /-- The location of a uniform is the position of its name. -/
  uniforms : List String := []
  /-- Pending errors, the oldest first. -/
  errors : List Nat := []

/-- A shader object of the device. -/
structure ScriptedShader where
  source : String := ""
  compiled : Bool := false

/-- A scripted device and its objects. -/
structure ScriptedDevice where
  script : DeviceScript := {}
  nextNumber : Nat := 1
  shaders : List (Nat × ScriptedShader) := []

namespace ScriptedDevice

/-- Take a number for a new object. -/
def take (device : ScriptedDevice) : Nat × ScriptedDevice :=
  (device.nextNumber, { device with nextNumber := device.nextNumber + 1 })

/-- The shader with a number. -/
def shader (device : ScriptedDevice) (number : Nat) : ScriptedShader :=
  (device.shaders.lookup number).getD {}

/-- Change the shader with a number. -/
def setShader (device : ScriptedDevice) (number : Nat) (shader : ScriptedShader) :
    ScriptedDevice :=
  { device with shaders := (number, shader) :: device.shaders.filter (·.1 != number) }

/-- Create an object of a kind of which so many are left, recording how many are left then. -/
def create (device : ScriptedDevice) (left : Option Nat)
    (setLeft : DeviceScript → Option Nat → DeviceScript) : Option Nat × ScriptedDevice :=
  match left with
  | some 0 => (none, device)
  | _ =>
    let (number, device) := device.take
    (some number, { device with script := setLeft device.script (left.map (· - 1)) })

/-- Create a shader. -/
def createShader (device : ScriptedDevice) : Option Nat × ScriptedDevice :=
  device.create device.script.shadersLeft fun script left => { script with shadersLeft := left }

/-- Create a program. -/
def createProgram (device : ScriptedDevice) : Option Nat × ScriptedDevice :=
  device.create device.script.programsLeft fun script left => { script with programsLeft := left }

/-- Create a vertex array. -/
def createVertexArray (device : ScriptedDevice) : Option Nat × ScriptedDevice :=
  device.create device.script.vertexArraysLeft fun script left =>
    { script with vertexArraysLeft := left }

/-- Give a shader its source. -/
def setSource (device : ScriptedDevice) (number : Nat) (source : String) : ScriptedDevice :=
  device.setShader number { device.shader number with source := source }

/-- Compile a shader, which fixes its status. -/
def compile (device : ScriptedDevice) (number : Nat) : ScriptedDevice :=
  let shader := device.shader number
  let fails := match device.script.compileFailMarker with
    | some marker => Text.occurs marker.toList shader.source.toList
    | none => false
  device.setShader number { shader with compiled := !fails }

/-- Where a uniform is. -/
def location? (device : ScriptedDevice) (name : String) : Option Nat :=
  device.script.uniforms.idxOf? name

/-- Take the oldest pending error. -/
def takeError (device : ScriptedDevice) : Nat × ScriptedDevice :=
  match device.script.errors with
  | [] => (0, device)
  | code :: rest => (code, { device with script := { device.script with errors := rest } })

/-- The outcome of a creation in the graphics interface. -/
def created {α : Type} (object : Nat → α) (kind : String) :
    Option Nat × ScriptedDevice → Except String α × ScriptedDevice
  | (some number, device) => (.ok (object number), device)
  | (none, device) => (.error ("out of " ++ kind ++ " objects"), device)

/-- The outcome of a creation among the raw calls. -/
def createdNative : Option Nat × ScriptedDevice → Nat × ScriptedDevice
  | (number, device) => (number.getD 0, device)

/-- A truth value among the raw calls. -/
def parameter (value : Bool) : Int := if value then 1 else 0

/-- Answer a call of the graphics interface. -/
def answer : Handler Graphics ScriptedDevice
  | .createShader _, device => created ShaderId.mk "shader" device.createShader
  | .createProgram, device => created ProgramId.mk "program" device.createProgram
  | .createVertexArray, device =>
    created VertexArrayId.mk "vertex array" device.createVertexArray
  | .shaderSource shader source, device => ((), device.setSource shader.number source)
  | .compileShader shader, device => ((), device.compile shader.number)
  | .compileStatus shader, device => ((device.shader shader.number).compiled, device)
  | .shaderLog _, device => (device.script.compileLog, device)
  | .linkStatus _, device => (device.script.linkSucceeds, device)
  | .programLog _, device => (device.script.linkLog, device)
  | .validateStatus _, device => (device.script.validateSucceeds, device)
  | .uniformLocation _ name, device => ((device.location? name).map UniformLocation.mk, device)
  | .lastError, device => device.takeError
  | .deleteShader _, device => ((), device)
  | .attachShader .., device => ((), device)
  | .linkProgram _, device => ((), device)
  | .validateProgram _, device => ((), device)
  | .deleteProgram _, device => ((), device)
  | .useProgram _, device => ((), device)
  | .setUniformSingle .., device => ((), device)
  | .setUniformVec4 .., device => ((), device)
  | .setUniformMat4 .., device => ((), device)
  | .bindVertexArray _, device => ((), device)
  | .deleteVertexArray _, device => ((), device)
  | .drawLines .., device => ((), device)
  | .drawPoints .., device => ((), device)
  | .setViewport .., device => ((), device)
  | .setClearColor _, device => ((), device)
  | .clear, device => ((), device)
  | .setDepthTest _, device => ((), device)
  | .setBlend _, device => ((), device)
  | .enableProgramPointSize, device => ((), device)

/-- Answer a raw call. -/
def answerNative : Handler Native ScriptedDevice
  | .createShader _, device => createdNative device.createShader
  | .createProgram, device => createdNative device.createProgram
  | .genVertexArray, device => createdNative device.createVertexArray
  | .shaderSource shader source, device => ((), device.setSource shader source)
  | .compileShader shader, device => ((), device.compile shader)
  | .getShader shader _, device => (parameter (device.shader shader).compiled, device)
  | .getShaderLog _, device => (device.script.compileLog, device)
  | .getProgram _ code, device =>
    (parameter (if code = NativeCode.linkStatus then device.script.linkSucceeds
      else device.script.validateSucceeds), device)
  | .getProgramLog _, device => (device.script.linkLog, device)
  | .getUniformLocation _ name, device =>
    ((device.location? name).elim (-1) fun location => (location : Int), device)
  | .getError, device => device.takeError
  | .deleteShader _, device => ((), device)
  | .attachShader .., device => ((), device)
  | .linkProgram _, device => ((), device)
  | .validateProgram _, device => ((), device)
  | .deleteProgram _, device => ((), device)
  | .useProgram _, device => ((), device)
  | .uniformSingle .., device => ((), device)
  | .uniformVec4 .., device => ((), device)
  | .uniformMat4 .., device => ((), device)
  | .bindVertexArray _, device => ((), device)
  | .deleteVertexArray _, device => ((), device)
  | .drawArrays .., device => ((), device)
  | .viewport .., device => ((), device)
  | .clearColor _, device => ((), device)
  | .clear _, device => ((), device)
  | .enable _, device => ((), device)
  | .disable _, device => ((), device)
  | .blendEquation _, device => ((), device)
  | .blendFunction .., device => ((), device)

end ScriptedDevice

end Shaderbox
