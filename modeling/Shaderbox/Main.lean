import Shaderbox.Demo.App
import Shaderbox.Log.Logger
import Shaderbox.Simulation.World

/-!
# The command line

Runs the demo for one frame without a screen: on a scripted device and window system, with shaders
from the directory that `LUMEN_SHADER_DIR` names. The log goes to standard error, filtered as
`RUST_LOG` says. Shader files are read when an expansion asks for them.
-/

namespace Shaderbox

/-- Files read so far; those that could not be read hold nothing. -/
abbrev KnownFiles := List (Path × Option ByteArray)

/-- What opening a path finds among known files. -/
def KnownFiles.files (known : KnownFiles) : Files := fun path =>
  match known.find? (·.1.same path) with
  | some (_, some content) => .file content
  | _ => .absent

/-- The paths that expansions miss among known files. -/
def KnownFiles.missing (known : KnownFiles) (shaders : ShaderConfig) (stages : List Path) :
    List Path :=
  let missed := stages.flatMap fun stage =>
    match expand known.files shaders (shaders.path stage) with
    | .ok expansion => expansion.report.findings.filterMap fun
      | .missingFile path => some path
      | _ => none
    | .error _ => []
  missed.filter fun path => !known.any (·.1.same path)

/-- Read a file, as far as it can be read. -/
def readFile (path : Path) : IO (Path × Option ByteArray) := do
  try
    return (path, some (← IO.FS.readBinFile path.text))
  catch _ =>
    return (path, none)

/-- Read what expansions ask for until they ask for nothing new. -/
partial def gatherFiles (shaders : ShaderConfig) (stages : List Path) (known : KnownFiles) :
    IO KnownFiles := do
  match known.missing shaders stages with
  | [] => return known
  | missing => gatherFiles shaders stages (known ++ (← missing.mapM readFile))

/-- The stages that the demo compiles. -/
def demoStages : List Path :=
  let scene : SceneConfig := {}
  [scene.basic, scene.grid, Swirl.sources].flatMap fun sources => sources.stages.map (·.2)

/-- A device that knows every uniform of the demo. -/
def demoDevice : ScriptedDevice :=
  { script :=
      { uniforms := (basicUniforms ++ gridUniforms ++ particleUniforms).map (·.name) } }

/-- Run the demo, and say whether it ended well. -/
def runDemo : IO UInt32 := do
  let root : Path := ⟨(← IO.getEnv "LUMEN_SHADER_DIR").getD "shaders"⟩
  let known ← gatherFiles { root } demoStages []
  let callbacks : List LoopCallback :=
    [.resumed, .windowEvent .redrawRequested, .windowEvent .closeRequested, .exiting]
  let (outcome, world) := World.perform .native
    (Demo.run root (callbacks.map (known.files, ·))) { device := demoDevice }
  let (logger, text) := Logger.install { timestamps := false } (← IO.getEnv "RUST_LOG") "" none
  IO.eprint (String.ofList (text ++ world.log.reverse.flatMap (logger.write "" "")))
  match outcome with
  | .ok (.ok _) => return 0
  | .ok (.error error) =>
    IO.eprintln ("Error: " ++ error.message)
    return 1
  | .error cause =>
    IO.eprintln cause.message
    return 1

end Shaderbox

def main : IO UInt32 := Shaderbox.runDemo
