import Shaderbox.Abort
import Shaderbox.Number.Word
import Shaderbox.Shader.Program

/-!
# Settings of the scene
-/

namespace Shaderbox

/-- Settings of the scene. -/
structure SceneConfig where
  shaders : ShaderConfig := {}
  basic : ProgramSources := ⟨⟨"basic/vs_basic.glsl"⟩, none, some ⟨"basic/fs_basic.glsl"⟩⟩
  grid : ProgramSources := ⟨⟨"grid/vs_grid.glsl"⟩, none, some ⟨"grid/fs_grid.glsl"⟩⟩
  /-- Cells of the grid on each side. -/
  gridResolution : UInt32 := 32
  clearColor : Vec4 := ⟨0.155, 0.15, 0.13, 1⟩

namespace SceneConfig

/-- Vertices of the grid: two lines for each boundary between rows and between columns. The
resolution is taken as a signed word first, and neither the sum nor the product may leave the
range of signed words. -/
def gridVertexCount (config : SceneConfig) : Except Abort Int :=
  let cells := Number.signedWord config.gridResolution.toNat
  if Number.wordMax < cells + 1 then .error .additionOverflow
  else
    let count := 4 * (cells + 1)
    if Number.wordMax < count ∨ count < Number.wordMin then .error .multiplicationOverflow
    else .ok count

end SceneConfig

end Shaderbox
