import Shaderbox.Scene.Particles
import Shaderbox.Shader.Program
import Shaderbox.Shader.Uniform

/-!
# Swirling particles

A particle simulation whose positions are a function of the particle's number and the time, worked
out by the vertex stage; the geometry stage makes a sprite of every point. When its objects cannot
be created the particles are not drawn, and everything else goes on.
-/

namespace Shaderbox

/-- Uniforms of the particle program. -/
def particleUniforms : List UniformBinding :=
  [⟨"mvp", "uMVP"⟩, ⟨"view", "uView"⟩, ⟨"time", "uTime"⟩, ⟨"box_size", "uBoxSize"⟩,
    ⟨"sprite_size", "uSpriteSize"⟩]

/-- The graphics objects of the particles. -/
structure SwirlObjects where
  program : ProgramHandle
  uniforms : UniformTable
  vertexArray : VertexArrayHandle
deriving DecidableEq

/-- Swirling particles. -/
structure Swirl where
  shaders : ShaderConfig
  count : Int := 16384
  boxSize : Float32 := 128
  spriteSize : Float32 := 0.6
  time : Float32 := 0
  objects : Option SwirlObjects := none

namespace Swirl

/-- The stages of the particle program. -/
def sources : ProgramSources :=
  { vertex := ⟨"particles/vs_particles.glsl"⟩
    geometry := some ⟨"particles/gs_particles.glsl"⟩
    fragment := some ⟨"particles/fs_particles.glsl"⟩ }

/-- Say that the particles are not drawn, and why. -/
def disabled (reason : String) : Action (Option SwirlObjects) := do
  Action.log .error ("particles disabled: " ++ reason)
  return none

/-- Delete the objects. -/
def release : Option SwirlObjects → Action Unit
  | none => .done ()
  | some objects => do
    objects.program.release
    objects.vertexArray.release

/-- Create the objects, as far as possible. -/
def build (files : Files) (shaders : ShaderConfig) : Action (Option SwirlObjects) := do
  let buffer ← .ofExcept (sourceBuffer shaders)
  match (← buildProgram files shaders sources buffer).result with
  | .error error => disabled error.message
  | .ok built =>
    if !built.succeeded then
      Action.log .warn s!"particle program has {built.findings.length} problems"
    match ← VertexArrayHandle.create with
    | .error reason =>
      let objects ← disabled reason
      built.program.release
      return objects
    | .ok vertexArray =>
      let uniforms ← UniformTable.resolve built.program particleUniforms
      return some ⟨built.program, uniforms, vertexArray⟩

/-- Create the objects in place of any that there were. -/
def init (files : Files) (swirl : Swirl) : Action Swirl := do
  let objects ← build files swirl.shaders
  release swirl.objects
  Action.log .info s!"{swirl.count} particles"
  return { swirl with objects }

/-- Release the objects. -/
def deinit (swirl : Swirl) : Action Swirl := do
  release swirl.objects
  return { swirl with objects := none }

/-- Let time pass. -/
def advance (dt : Float32) (swirl : Swirl) : Swirl :=
  { swirl with time := swirl.time + dt }

/-- Draw the particles, if their objects exist. -/
def render (view viewProjection : Mat4) (swirl : Swirl) : Action Unit :=
  match swirl.objects with
  | none => .done ()
  | some objects => do
    objects.program.bind
    objects.uniforms.setMat4 "mvp" viewProjection
    objects.uniforms.setMat4 "view" view
    objects.uniforms.setSingle "time" swirl.time
    objects.uniforms.setSingle "box_size" swirl.boxSize
    objects.uniforms.setSingle "sprite_size" swirl.spriteSize
    objects.vertexArray.bind
    Action.graphics (.drawPoints 0 swirl.count)
    objects.vertexArray.unbind
    Action.graphics (.useProgram none)

/-- The swirl as a particle simulation. -/
def simulation : ParticleSimulation Swirl where
  init := init
  deinit := deinit
  update dt _ swirl := return swirl.advance dt
  render view viewProjection swirl := do
    swirl.render view viewProjection
    return swirl
  boxSize := boxSize
  fieldDimensions swirl := ⟨swirl.boxSize, 0.5 * swirl.boxSize, swirl.boxSize⟩

end Swirl

end Shaderbox
