import Shaderbox.Scene.Config
import Shaderbox.Shader.Uniform

/-!
# The programs of the scene

The scene draws with two programs: one for boxes, one for the grid. They are built together, and
either both exist afterwards or neither does.
-/

namespace Shaderbox

/-- Uniforms of the program for boxes. -/
def basicUniforms : List UniformBinding := [⟨"color", "uColor"⟩, ⟨"mvp", "uMVP"⟩]

/-- Uniforms of the program for the grid. -/
def gridUniforms : List UniformBinding :=
  [⟨"mvp", "uMVP"⟩, ⟨"scale_factor", "uScaleFactor"⟩, ⟨"resolution", "uResolution"⟩]

/-- The programs of the scene and their uniforms. -/
structure ScenePrograms where
  basic : ProgramHandle
  basicUniforms : UniformTable
  grid : ProgramHandle
  gridUniforms : UniformTable
deriving DecidableEq

/-- The programs and what was found while building them. -/
structure SceneProgramsBuild where
  programs : ScenePrograms
  findings : List Finding
deriving DecidableEq

namespace SceneProgramsBuild

/-- Whether every stage compiled and both programs linked and validated. -/
def succeeded (build : SceneProgramsBuild) : Bool :=
  buildSucceeded build.findings

end SceneProgramsBuild

namespace ScenePrograms

/-- Delete both programs. -/
def release (programs : ScenePrograms) : Action Unit := do
  programs.basic.release
  programs.grid.release

/-- Build both programs and look up their uniforms. -/
def build (files : Files) (config : SceneConfig) :
    Action (Except CreateError SceneProgramsBuild) := do
  let buffer ← .ofExcept (sourceBuffer config.shaders)
  let ⟨buffer, basic⟩ ← buildProgram files config.shaders config.basic buffer
  match basic with
  | .error error => return .error error
  | .ok basic =>
    let ⟨_, grid⟩ ← buildProgram files config.shaders config.grid buffer
    match grid with
    | .error error =>
      basic.program.release
      return .error error
    | .ok grid =>
      let basicTable ← UniformTable.resolve basic.program Shaderbox.basicUniforms
      let gridTable ← UniformTable.resolve grid.program Shaderbox.gridUniforms
      return .ok ⟨⟨basic.program, basicTable, grid.program, gridTable⟩,
        basic.findings ++ grid.findings⟩

end ScenePrograms

end Shaderbox
