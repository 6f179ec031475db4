import Shaderbox.Graphics.Creation
import Shaderbox.Graphics.Handle
import Shaderbox.Shader.Include
import Shaderbox.Shader.Status

/-!
# Building programs

A program is built from a vertex stage and optional geometry and fragment stages. Every stage is
expanded and compiled, then all are attached, and the program is linked and validated. Failures on
the way are findings: the program exists all the same. Only when the device refuses to create an
object is there no program, and then everything created before is released again.
-/

namespace Shaderbox

/-- The stage files of a program, named relative to the shader root. -/
structure ProgramSources where
  vertex : Path
  geometry : Option Path := none
  fragment : Option Path := none
deriving DecidableEq

namespace ProgramSources

/-- The stages that are present, in the order in which they are compiled. -/
def stages (sources : ProgramSources) : List (Stage × Path) :=
  (.vertex, sources.vertex) :: (sources.geometry.map (Stage.geometry, ·)).toList ++
    (sources.fragment.map (Stage.fragment, ·)).toList

/-- The vertex stage comes first, and behind it the geometry and the fragment stage if there are
any. -/
theorem stages_eq (sources : ProgramSources) :
    sources.stages = (.vertex, sources.vertex) :: (sources.geometry.toList.map (.geometry, ·) ++
      sources.fragment.toList.map (.fragment, ·)) := by
  obtain ⟨vertex, _ | geometry, _ | fragment⟩ := sources <;> rfl

/-- What a file contributes to the name of a program. -/
def stageName (path : Path) : String :=
  path.fileName?.getD path.text

/-- The program's name in messages. -/
def label (sources : ProgramSources) : String :=
  "+".intercalate (sources.stages.map fun stage => stageName stage.2)

/-- A program is named after its files. -/
theorem label_eq (sources : ProgramSources) :
    sources.label = "+".intercalate
      ((sources.vertex :: (sources.geometry.toList ++ sources.fragment.toList)).map stageName) := by
  obtain ⟨vertex, _ | geometry, _ | fragment⟩ := sources <;> rfl

end ProgramSources

/-- Whether findings leave a build successful. -/
def buildSucceeded (findings : List Finding) : Bool :=
  !findings.any Finding.failsBuild

/-- A program and what was found while building it. -/
structure ProgramBuild where
  program : ProgramHandle
  findings : List Finding
deriving DecidableEq

namespace ProgramBuild

/-- Whether every stage compiled and the program linked and validated. -/
def succeeded (build : ProgramBuild) : Bool :=
  buildSucceeded build.findings

end ProgramBuild

/-- What is left of a part of a build: the buffer, and a result or the reason why there is none. -/
structure BuildStep (α : Type) where
  buffer : SourceBuffer
  result : Except CreateError α

/-- Shaders compiled so far, in the order of their creation, and the findings about them. -/
structure CompiledStages where
  shaders : List ShaderHandle
  findings : List Finding

/-- Release shaders in order. -/
def releaseShaders : List ShaderHandle → Action Unit
  | [] => .done ()
  | shader :: rest => shader.release.bind fun _ => releaseShaders rest

/-- Attach shaders to a program in order, releasing each as soon as it is attached. -/
def attachShaders (program : ProgramHandle) : List ShaderHandle → Action Unit
  | [] => .done ()
  | shader :: rest => (program.attach shader).bind fun _ => attachShaders program rest

/-- Expand the source of a shader into the buffer and compile it. -/
def compileShader (files : Files) (config : ShaderConfig) (shader : ShaderHandle) (name : Path)
    (buffer : SourceBuffer) : Action (SourceBuffer × List Finding) := do
  let (buffer, expansion) ← .ofExcept (expandInto files config (config.path name) buffer)
  Action.logAll expansion.log
  Action.graphics (.shaderSource shader.id buffer.text)
  Action.graphics (.compileShader shader.id)
  let failure ← checkCompile shader.id shader.stage name.text
  return (buffer, expansion.report.findings ++ failure.toList)

/-- Compile stages in order behind those already compiled. When a shader is refused, all that were
created before are released. -/
def compileStages (files : Files) (config : ShaderConfig) :
    List (Stage × Path) → CompiledStages → SourceBuffer → Action (BuildStep CompiledStages)
  | [], compiled, buffer => return ⟨buffer, .ok compiled⟩
  | (stage, name) :: rest, compiled, buffer => do
    match ← ShaderHandle.create stage with
    | .error reason =>
      releaseShaders compiled.shaders
      return ⟨buffer, .error ⟨.shader, reason⟩⟩
    | .ok shader =>
      let (buffer, findings) ← (compileShader files config shader name buffer).onAbort
        (releaseShaders (shader :: compiled.shaders))
      compileStages files config rest
        ⟨compiled.shaders ++ [shader], compiled.findings ++ findings⟩ buffer

/-- Link a program and check the result. -/
def linkProgram (program : ProgramHandle) : Action (List Finding) := do
  Action.graphics (.linkProgram program.id)
  return (← checkLink program.id program.label).toList

/-- Make a program of compiled shaders: attach and release them, link and validate. -/
def finishProgram (label : String) (compiled : CompiledStages) :
    Action (Except CreateError ProgramBuild) := do
  match ← ProgramHandle.create label with
  | .error reason =>
    releaseShaders compiled.shaders
    return .error ⟨.program, reason⟩
  | .ok program =>
    attachShaders program compiled.shaders
    let linking ← linkProgram program
    let validating ← checkValidate program.id program.label
    let build := ProgramBuild.mk program (compiled.findings ++ linking ++ validating.toList)
    if build.succeeded then Action.log .debug s!"program \"{label}\" built"
    return .ok build

/-- Build a program, using the buffer for the source of each stage in turn. -/
def buildProgram (files : Files) (config : ShaderConfig) (sources : ProgramSources)
    (buffer : SourceBuffer) : Action (BuildStep ProgramBuild) := do
  let ⟨buffer, compiled⟩ ← compileStages files config sources.stages ⟨[], []⟩ buffer
  match compiled with
  | .error error => return ⟨buffer, .error error⟩
  | .ok compiled => return ⟨buffer, ← finishProgram sources.label compiled⟩

/-- A buffer for the sources of this configuration. -/
def sourceBuffer (config : ShaderConfig) : Except Abort SourceBuffer :=
  SourceBuffer.withCapacity config.maxSourceSize

end Shaderbox
