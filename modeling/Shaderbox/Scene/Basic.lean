import Shaderbox.Scene.Particles
import Shaderbox.Scene.Programs

/-!
# The scene

A live scene owns two programs and a vertex array, and draws a frame in three passes: the grid, the
particles, and two boxes. Its programs can be built afresh from disk while it runs; the new ones
take over only if nothing failed. Once the scene was deinitialized it owns nothing, and every later
operation does nothing.
-/

namespace Shaderbox

/-- The graphics objects of a live scene. -/
structure SceneObjects where
  programs : ScenePrograms
  vertexArray : VertexArrayHandle
deriving DecidableEq

/-- A scene with particles of type `σ`. -/
structure Scene (σ : Type) where
  config : SceneConfig
  /-- What the scene owns while it is live. -/
  objects : Option SceneObjects
  particles : σ
  /-- What the last build of the programs found. -/
  findings : List Finding

namespace Scene

variable {σ : Type}

/-- Vertices of a box: twelve edges of two. -/
def boxVertexCount : Int := 24

/-- Color of the box around the particles. -/
def simulationBoxColor : Vec4 := ⟨0.5, 0.4, 0.5, 0.5⟩

/-- Color of the box around the field. -/
def fieldBoxColor : Vec4 := ⟨0.5, 0.5, 0.1, 0.3⟩

/-- Whether the scene owns its objects. -/
def isLive (scene : Scene σ) : Bool := scene.objects.isSome

/-- Build the programs, initialize the particles and set the state that the passes rely on. -/
def create (files : Files) (simulation : ParticleSimulation σ) (particles : σ)
    (config : SceneConfig) : Action (Except CreateError (Scene σ)) := do
  match ← ScenePrograms.build files config with
  | .error error => return .error error
  | .ok built =>
    match ← VertexArrayHandle.create with
    | .error reason =>
      built.programs.release
      return .error ⟨.vertexArray, reason⟩
    | .ok vertexArray =>
      let particles ← (simulation.init files particles).onAbort do
        vertexArray.release
        built.programs.release
      Action.graphics (.setClearColor config.clearColor)
      Action.graphics .enableProgramPointSize
      let _ ← pollError .engine "scene init" .log
      let size := Number.plain.text (simulation.boxSize particles)
      Action.log .debug s!"scene ready ({built.findings.length} diagnostics, box size {size})"
      return .ok ⟨config, some ⟨built.programs, vertexArray⟩, particles, built.findings⟩

/-- Advance the particles. -/
def update (simulation : ParticleSimulation σ) (view : Mat4) (dt : Float32) (scene : Scene σ) :
    Action (Scene σ) := do
  if scene.isLive then
    return { scene with particles := ← simulation.update dt view scene.particles }
  else return scene

/-- Draw the grid. -/
def drawGrid (config : SceneConfig) (programs : ScenePrograms) (boxSize : Float32)
    (viewProjection : Mat4) : Action Unit := do
  programs.grid.bind
  programs.gridUniforms.setMat4 "mvp" viewProjection
  programs.gridUniforms.setSingle "scale_factor" boxSize
  programs.gridUniforms.setSingle "resolution" (Float32.ofNat config.gridResolution.toNat)
  let count ← .ofExcept config.gridVertexCount
  Action.graphics (.drawLines 0 count)
  Action.graphics (.useProgram none)

/-- Draw a box. -/
def drawBox (programs : ScenePrograms) (transformation : Mat4) (color : Vec4) : Action Unit := do
  programs.basic.bind
  programs.basicUniforms.setMat4 "mvp" transformation
  programs.basicUniforms.setVec4 "color" color
  Action.graphics (.drawLines 0 boxVertexCount)
  Action.graphics (.useProgram none)

/-- Set the depth test and blending for a pass. -/
def setPassState (depthTest : Bool) (blend : BlendMode) : Action Unit := do
  Action.graphics (.setDepthTest depthTest)
  Action.graphics (.setBlend blend)

/-- Draw a frame with the objects of a live scene. The simulation may leave a vertex array of its
own bound, so the scene's is bound again behind it. -/
def renderWith (simulation : ParticleSimulation σ) (view viewProjection : Mat4)
    (config : SceneConfig) (objects : SceneObjects) (particles : σ) : Action σ := do
  Action.graphics .clear
  objects.vertexArray.bind
  setPassState true .disabled
  drawGrid config objects.programs (simulation.boxSize particles) viewProjection
  setPassState false .additive
  let particles ← simulation.render view viewProjection particles
  objects.vertexArray.bind
  setPassState true .alpha
  drawBox objects.programs (viewProjection.scaledEvenly (simulation.boxSize particles))
    simulationBoxColor
  drawBox objects.programs (viewProjection.scaled (simulation.fieldDimensions particles))
    fieldBoxColor
  objects.vertexArray.unbind
  let _ ← pollError .engine "scene render" .log
  return particles

/-- Draw a frame. -/
def render (simulation : ParticleSimulation σ) (view viewProjection : Mat4) (scene : Scene σ) :
    Action (Scene σ) := do
  match scene.objects with
  | none => return scene
  | some objects =>
    let particles ←
      renderWith simulation view viewProjection scene.config objects scene.particles
    return { scene with particles }

/-- Build the programs afresh. They replace the running ones if nothing failed, which is what the
answer tells. -/
def reload (files : Files) (scene : Scene σ) : Action (Except CreateError Bool × Scene σ) := do
  match scene.objects with
  | none => return (.ok false, scene)
  | some objects =>
    match ← ScenePrograms.build files scene.config with
    | .error error => return (.error error, scene)
    | .ok built =>
      if built.succeeded then
        objects.programs.release
        Action.log .info "shaders reloaded"
        return (.ok true,
          { scene with
            objects := some { objects with programs := built.programs }
            findings := built.findings })
      else
        Action.log .warn "shader reload failed; keeping the running programs"
        built.programs.release
        return (.ok false, { scene with findings := built.findings })

/-- Deinitialize the particles and release everything the scene owns. -/
def deinit (simulation : ParticleSimulation σ) (scene : Scene σ) : Action (Scene σ) := do
  match scene.objects with
  | none => return scene
  | some objects =>
    let particles ← simulation.deinit scene.particles
    objects.programs.release
    objects.vertexArray.release
    Action.log .debug "scene released"
    return { scene with objects := none, particles }

/-- Deinitialize a scene, if there is one. -/
def drop (simulation : ParticleSimulation σ) : Option (Scene σ) → Action Unit
  | none => .done ()
  | some scene => do
    let _ ← scene.deinit simulation
    return ()

end Scene

end Shaderbox
