import Shaderbox.Effect
import Shaderbox.Files.Tree

/-!
# The particle simulation, seen from the scene

A simulation owns its graphics objects. It is initialized once after the scene's programs exist and
deinitialized once before they go. The scene sets the depth test and blending before it lets the
simulation draw.
-/

namespace Shaderbox

/-- A particle simulation with states of type `σ`. -/
structure ParticleSimulation (σ : Type) where
  init : Files → σ → Action σ
  deinit : σ → Action σ
  /-- Advance by a time in seconds, as seen through a view. -/
  update : Float32 → Mat4 → σ → Action σ
  /-- Draw with a view and its product with the projection. -/
  render : Mat4 → Mat4 → σ → Action σ
  /-- Edge of the cube that holds the particles. -/
  boxSize : σ → Float32
  /-- Extent of the field that drives the particles. -/
  fieldDimensions : σ → Vec3

/-- The dimensions of a simulation that does nothing but consult its observer. -/
structure ObservedParticles where
  size : Float32
  dimensions : Vec3

/-- A simulation that leaves everything to its observer. -/
def observedParticles : ParticleSimulation ObservedParticles where
  init _ particles := do
    Action.observe .particlesInit
    return particles
  deinit particles := do
    Action.observe .particlesDeinit
    return particles
  update dt view particles := do
    Action.observe (.particlesUpdate dt view)
    return particles
  render view viewProjection particles := do
    Action.observe (.particlesRender view viewProjection)
    return particles
  boxSize particles := particles.size
  fieldDimensions particles := particles.dimensions

end Shaderbox
