import Shaderbox.Proofs.FixedCalls
import Shaderbox.Demo.Swirl
import Shaderbox.Scene.Basic

/-!
# The passes of a frame, call by call

While a program is bound its uniforms are set, as far as it has them, something is drawn, and then
no program is bound any more. A frame is made of such turns, with the depth test and the blending
set before each pass, and its calls are settled before it begins, up to those of the simulation. The
turn of the swirling particles has the same form.

A grid whose vertices cannot be counted ends the frame before anything is drawn.
-/

namespace Shaderbox

open Interaction

/-- A value that a uniform is set to. -/
inductive UniformValue where
  | single (value : Float32)
  | vec4 (value : Vec4)
  | mat4 (value : Mat4)

/-- The call that sets the uniform at a location. -/
def UniformValue.upload : UniformValue → UniformLocation → GraphicsCall
  | .single value, location => .setUniformSingle location value
  | .vec4 value, location => .setUniformVec4 location value
  | .mat4 value, location => .setUniformMat4 location value

/-- A turn of a program: the values that its uniforms are to be set to, by what they are for, and
what is drawn then. -/
structure Turn where
  program : ProgramHandle
  /-- The names of its uniforms. -/
  bindings : List UniformBinding
  table : UniformTable
  values : List (String × UniformValue)
  drawing : List GraphicsCall

namespace Turn

/-- The calls that set the uniforms that the program has. -/
def uploads (turn : Turn) : List GraphicsCall :=
  turn.values.flatMap fun (semantic, value) =>
    ((turn.table.get? semantic).map value.upload).toList

/-- The calls of a turn. -/
def calls (turn : Turn) : List GraphicsCall :=
  .useProgram (some turn.program.id) :: (turn.uploads ++ turn.drawing ++ [.useProgram none])

/-- What sets a uniform is the upload of one of the values to the location for its purpose. -/
theorem mem_uploads_iff {turn : Turn} {call : GraphicsCall} :
    call ∈ turn.uploads ↔ ∃ semantic value location, (semantic, value) ∈ turn.values ∧
      turn.table.get? semantic = some location ∧ call = value.upload location := by
  unfold uploads
  rw [List.mem_flatMap]
  constructor
  · rintro ⟨⟨semantic, value⟩, hvalue, hcall⟩
    obtain ⟨location, hlocation, rfl⟩ :=
      Option.map_eq_some_iff.mp (Option.mem_toList.mp hcall)
    exact ⟨semantic, value, location, hvalue, hlocation, rfl⟩
  · rintro ⟨semantic, value, location, hvalue, hlocation, rfl⟩
    exact ⟨(semantic, value), hvalue, by simp [hlocation]⟩

/-- The turn in which a grid with so many vertices is drawn. -/
def grid (config : SceneConfig) (programs : ScenePrograms) (boxSize : Float32)
    (viewProjection : Mat4) (count : Int) : Turn where
  program := programs.grid
  bindings := gridUniforms
  table := programs.gridUniforms
  values := [("mvp", .mat4 viewProjection), ("scale_factor", .single boxSize),
    ("resolution", .single (Float32.ofNat config.gridResolution.toNat))]
  drawing := [.drawLines 0 count]

/-- The turn in which a box is drawn. -/
def box (programs : ScenePrograms) (transformation : Mat4) (color : Vec4) : Turn where
  program := programs.basic
  bindings := basicUniforms
  table := programs.basicUniforms
  values := [("mvp", .mat4 transformation), ("color", .vec4 color)]
  drawing := [.drawLines 0 Scene.boxVertexCount]

/-- The turn in which the particles are drawn. -/
def particles (objects : SwirlObjects) (swirl : Swirl) (view viewProjection : Mat4) : Turn where
  program := objects.program
  bindings := particleUniforms
  table := objects.uniforms
  values := [("mvp", .mat4 viewProjection), ("view", .mat4 view), ("time", .single swirl.time),
    ("box_size", .single swirl.boxSize), ("sprite_size", .single swirl.spriteSize)]
  drawing := [.bindVertexArray (some objects.vertexArray.id), .drawPoints 0 swirl.count,
    .bindVertexArray none]

end Turn

section Uniforms

variable (table : UniformTable) (semantic : String)

/-- Setting a uniform is one call if the program has it, and none otherwise. -/
theorem issues_set (value : UniformValue) {call : UniformLocation → Action Unit}
    (hcall : ∀ location, Issues (call location) [value.upload location] none) :
    Issues (table.set semantic call)
      ((table.get? semantic).map value.upload).toList none := by
  unfold UniformTable.set
  cases table.get? semantic with
  | none => exact .done ()
  | some location => exact hcall location

theorem issues_setSingle (value : Float32) :
    Issues (table.setSingle semantic value)
      ((table.get? semantic).map (UniformValue.single value).upload).toList none :=
  issues_set table semantic (.single value) fun _ => issues_graphics _

theorem issues_setVec4 (value : Vec4) :
    Issues (table.setVec4 semantic value)
      ((table.get? semantic).map (UniformValue.vec4 value).upload).toList none :=
  issues_set table semantic (.vec4 value) fun _ => issues_graphics _

theorem issues_setMat4 (value : Mat4) :
    Issues (table.setMat4 semantic value)
      ((table.get? semantic).map (UniformValue.mat4 value).upload).toList none :=
  issues_set table semantic (.mat4 value) fun _ => issues_graphics _

end Uniforms

section Turns

variable (programs : ScenePrograms)

theorem issues_drawBox (transformation : Mat4) (color : Vec4) :
    Issues (Scene.drawBox programs transformation color)
      (Turn.box programs transformation color).calls none := by
  apply Issues.congr
  · exact (issues_graphics _).bind fun _ => (issues_setMat4 _ _ _).bind fun _ =>
      (issues_setVec4 _ _ _).bind fun _ => (issues_graphics _).bind fun _ => issues_graphics _
  · simp [Turn.calls, Turn.uploads, Turn.box]

variable (config : SceneConfig) (boxSize : Float32) (viewProjection : Mat4)

theorem issues_drawGrid {count : Int} (hcount : config.gridVertexCount = .ok count) :
    Issues (Scene.drawGrid config programs boxSize viewProjection)
      (Turn.grid config programs boxSize viewProjection count).calls none := by
  unfold Scene.drawGrid
  rw [hcount]
  apply Issues.congr
  · exact (issues_graphics _).bind fun _ => (issues_setMat4 _ _ _).bind fun _ =>
      (issues_setSingle _ _ _).bind fun _ => (issues_setSingle _ _ _).bind fun _ =>
        (issues_graphics _).bind fun _ => issues_graphics _
  · simp [Turn.calls, Turn.uploads, Turn.grid]

/-- A grid whose vertices cannot be counted is not drawn, and its program stays bound. -/
theorem issues_drawGrid_overflow {cause : Abort} (hcount : config.gridVertexCount = .error cause) :
    Issues (Scene.drawGrid config programs boxSize viewProjection)
      (.useProgram (some programs.grid.id) ::
        (Turn.grid config programs boxSize viewProjection 0).uploads) (some cause) := by
  unfold Scene.drawGrid
  rw [hcount]
  apply Issues.congr
  · exact (issues_graphics _).bind fun _ => (issues_setMat4 _ _ _).bind fun _ =>
      (issues_setSingle _ _ _).bind fun _ => (issues_setSingle _ _ _).bind fun _ => .abort cause
  · simp [Turn.uploads, Turn.grid]

/-- The particles are drawn in a turn of their own, if their objects exist. -/
theorem issues_renderSwirl (swirl : Swirl) (view : Mat4) :
    Issues (swirl.render view viewProjection)
      (swirl.objects.elim [] fun objects =>
        (Turn.particles objects swirl view viewProjection).calls) none := by
  unfold Swirl.render
  cases swirl.objects with
  | none => exact .done ()
  | some objects =>
    apply Issues.congr
    · exact (issues_graphics _).bind fun _ => (issues_setMat4 _ _ _).bind fun _ =>
        (issues_setMat4 _ _ _).bind fun _ => (issues_setSingle _ _ _).bind fun _ =>
          (issues_setSingle _ _ _).bind fun _ => (issues_setSingle _ _ _).bind fun _ =>
            (issues_graphics _).bind fun _ => (issues_graphics _).bind fun _ =>
              (issues_graphics _).bind fun _ => issues_graphics _
    · simp [Turn.calls, Turn.uploads, Turn.particles]

end Turns

theorem issues_setPassState (depthTest : Bool) (blend : BlendMode) :
    Issues (Scene.setPassState depthTest blend) [.setDepthTest depthTest, .setBlend blend] none :=
  (issues_graphics _).bind fun _ => issues_graphics _

theorem issues_pollError (site : PollSite) (message : String) :
    Issues (pollError site message .log) [.lastError] none := by
  refine .graphics fun code => ?_
  rw [done_bind]
  split
  · exact .done _
  · exact (issues_log _ _).bind fun _ => .done _

namespace Scene

variable {σ : Type} (config : SceneConfig) (objects : SceneObjects) (boxSize : Float32)
  (dimensions : Vec3) (viewProjection : Mat4)

/-- Draw the grid, and prepare for the simulation. -/
def openFrame : Action Unit := do
  Action.graphics .clear
  objects.vertexArray.bind
  setPassState true .disabled
  drawGrid config objects.programs boxSize viewProjection
  setPassState false .additive

/-- Draw the boxes of the simulation behind it. -/
def closeFrame : Action Unit := do
  objects.vertexArray.bind
  setPassState true .alpha
  drawBox objects.programs (viewProjection.scaledEvenly boxSize) simulationBoxColor
  drawBox objects.programs (viewProjection.scaled dimensions) fieldBoxColor
  objects.vertexArray.unbind
  let _ ← pollError .engine "scene render" .log

/-- A frame is what is drawn before the simulation, the simulation, and what is drawn behind it. -/
theorem render_eq (simulation : ParticleSimulation σ) (view viewProjection : Mat4)
    {scene : Scene σ} {objects : SceneObjects} (hlive : scene.objects = some objects) :
    scene.render simulation view viewProjection =
      (openFrame scene.config objects (simulation.boxSize scene.particles) viewProjection).bind
        fun _ => (simulation.render view viewProjection scene.particles).bind fun particles =>
          (closeFrame objects (simulation.boxSize particles)
            (simulation.fieldDimensions particles) viewProjection).bind fun _ =>
              .done { scene with particles } := by
  unfold render
  rw [hlive]
  simp [renderWith, openFrame, closeFrame, bind_assoc]

/-- The calls before those for the grid. -/
def gridPreparation : List GraphicsCall :=
  [.clear, .bindVertexArray (some objects.vertexArray.id), .setDepthTest true,
    .setBlend .disabled]

/-- The calls of a frame up to those of the simulation. -/
def openingCalls (count : Int) : List GraphicsCall :=
  gridPreparation objects ++ (Turn.grid config objects.programs boxSize viewProjection count).calls
    ++ [.setDepthTest false, .setBlend .additive]

/-- The calls of a frame behind those of the simulation. -/
def closingCalls : List GraphicsCall :=
  [.bindVertexArray (some objects.vertexArray.id), .setDepthTest true, .setBlend .alpha] ++
  (Turn.box objects.programs (viewProjection.scaledEvenly boxSize) simulationBoxColor).calls ++
  (Turn.box objects.programs (viewProjection.scaled dimensions) fieldBoxColor).calls ++
  [.bindVertexArray none, .lastError]

theorem issues_openFrame {count : Int} (hcount : config.gridVertexCount = .ok count) :
    Issues (openFrame config objects boxSize viewProjection)
      (openingCalls config objects boxSize viewProjection count) none := by
  apply Issues.congr
  · exact (issues_graphics _).bind fun _ => (issues_graphics _).bind fun _ =>
      (issues_setPassState _ _).bind fun _ =>
        (issues_drawGrid objects.programs config boxSize viewProjection hcount).bind fun _ =>
          issues_setPassState _ _
  · simp [openingCalls, gridPreparation]

theorem issues_openFrame_overflow {cause : Abort}
    (hcount : config.gridVertexCount = .error cause) :
    Issues (openFrame config objects boxSize viewProjection)
      (gridPreparation objects ++ .useProgram (some objects.programs.grid.id) ::
        (Turn.grid config objects.programs boxSize viewProjection 0).uploads) (some cause) :=
  (issues_graphics _).bind fun _ => (issues_graphics _).bind fun _ =>
    (issues_setPassState _ _).bind fun _ =>
      (issues_drawGrid_overflow objects.programs config boxSize viewProjection hcount).bind_abort

theorem issues_closeFrame :
    Issues (closeFrame objects boxSize dimensions viewProjection)
      (closingCalls objects boxSize dimensions viewProjection) none := by
  apply Issues.congr
  · exact (issues_graphics _).bind fun _ => (issues_setPassState _ _).bind fun _ =>
      (issues_drawBox _ _ _).bind fun _ => (issues_drawBox _ _ _).bind fun _ =>
        (issues_graphics _).bind fun _ => (issues_pollError _ _).bind fun _ => .done ()
  · simp [closingCalls]

end Scene

/-- Whether a call is one of those that frames are made of. -/
def GraphicsCall.inFrame : GraphicsCall → Bool
  | .useProgram _ => true
  | .setUniformSingle .. => true
  | .setUniformVec4 .. => true
  | .setUniformMat4 .. => true
  | .bindVertexArray _ => true
  | .drawLines .. => true
  | .drawPoints .. => true
  | .clear => true
  | .setDepthTest _ => true
  | .setBlend _ => true
  | .lastError => true
  | _ => false

/-- No call of a frame asks for a location. -/
theorem GraphicsCall.looksUp_of_inFrame {call : GraphicsCall} (h : call.inFrame = true) :
    call.looksUp = false := by
  cases call <;> first | rfl | contradiction

theorem UniformValue.inFrame_upload (value : UniformValue) (location : UniformLocation) :
    (value.upload location).inFrame = true := by
  cases value <;> rfl

namespace Turn

variable {turn : Turn}

theorem inFrame_of_mem_uploads : ∀ call ∈ turn.uploads, call.inFrame = true := by
  intro call hcall
  obtain ⟨_, value, location, -, -, rfl⟩ := mem_uploads_iff.mp hcall
  exact value.inFrame_upload location

/-- What goes for the calls of a turn one by one goes for the turn. -/
theorem forall_mem_calls {P : GraphicsCall → Prop}
    (hbound : P (.useProgram (some turn.program.id))) (huploads : ∀ call ∈ turn.uploads, P call)
    (hdrawing : ∀ call ∈ turn.drawing, P call) (hunbound : P (.useProgram none)) :
    ∀ call ∈ turn.calls, P call := by
  unfold calls
  simp only [List.forall_mem_cons, List.forall_mem_append]
  exact ⟨hbound, ⟨huploads, hdrawing⟩, hunbound, List.forall_mem_nil _⟩

/-- A turn has its place in a frame if what is drawn in it has. -/
theorem inFrame_of_mem_calls (hdrawing : ∀ call ∈ turn.drawing, call.inFrame = true) :
    ∀ call ∈ turn.calls, call.inFrame = true :=
  forall_mem_calls rfl inFrame_of_mem_uploads hdrawing rfl

end Turn

namespace Scene

variable (config : SceneConfig) (objects : SceneObjects) (boxSize : Float32)
  (dimensions : Vec3) (viewProjection : Mat4)

theorem inFrame_of_mem_openingCalls (count : Int) :
    ∀ call ∈ openingCalls config objects boxSize viewProjection count, call.inFrame = true := by
  have hgrid := @Turn.inFrame_of_mem_calls
    (Turn.grid config objects.programs boxSize viewProjection count)
    (by simp [Turn.grid, GraphicsCall.inFrame])
  unfold openingCalls gridPreparation
  simp only [List.forall_mem_append]
  exact ⟨⟨by simp [GraphicsCall.inFrame], hgrid⟩, by simp [GraphicsCall.inFrame]⟩

theorem inFrame_of_mem_closingCalls :
    ∀ call ∈ closingCalls objects boxSize dimensions viewProjection, call.inFrame = true := by
  have hbox (transformation : Mat4) (color : Vec4) := @Turn.inFrame_of_mem_calls
    (Turn.box objects.programs transformation color) (by simp [Turn.box, GraphicsCall.inFrame])
  unfold closingCalls
  simp only [List.forall_mem_append]
  exact ⟨⟨⟨by simp [GraphicsCall.inFrame], hbox _ _⟩, hbox _ _⟩, by simp [GraphicsCall.inFrame]⟩

end Scene

section Swirl

variable {scene : Scene Swirl} {objects : SceneObjects} (view viewProjection : Mat4)

/-- The calls of the particles, if their objects exist. -/
def Swirl.frameCalls (swirl : Swirl) (view viewProjection : Mat4) : List GraphicsCall :=
  swirl.objects.elim [] fun objects => (Turn.particles objects swirl view viewProjection).calls

/-- All calls of a frame of a scene with swirling particles. -/
def Scene.frameCalls (scene : Scene Swirl) (objects : SceneObjects) (view viewProjection : Mat4)
    (count : Int) : List GraphicsCall :=
  openingCalls scene.config objects scene.particles.boxSize viewProjection count ++
    scene.particles.frameCalls view viewProjection ++
    closingCalls objects scene.particles.boxSize
      (Swirl.simulation.fieldDimensions scene.particles) viewProjection

/-- All calls of a frame whose grid cannot be drawn. -/
def Scene.brokenCalls (scene : Scene Swirl) (objects : SceneObjects) (viewProjection : Mat4) :
    List GraphicsCall :=
  gridPreparation objects ++ .useProgram (some objects.programs.grid.id) ::
    (Turn.grid scene.config objects.programs scene.particles.boxSize viewProjection 0).uploads

/-- A frame with swirling particles leaves the scene as it is. -/
theorem Scene.render_swirl_eq (hlive : scene.objects = some objects) :
    scene.render Swirl.simulation view viewProjection =
      (openFrame scene.config objects scene.particles.boxSize viewProjection).bind fun _ =>
        (scene.particles.render view viewProjection).bind fun _ =>
          (closeFrame objects scene.particles.boxSize
            (Swirl.simulation.fieldDimensions scene.particles) viewProjection).bind fun _ =>
              .done scene := by
  rw [render_eq _ _ _ hlive]
  refine congrArg _ (funext fun _ => ?_)
  change ((scene.particles.render view viewProjection).bind fun _ => _).bind _ = _
  rw [bind_assoc]
  rfl

theorem issues_renderScene (hlive : scene.objects = some objects) {count : Int}
    (hcount : scene.config.gridVertexCount = .ok count) :
    Issues (scene.render Swirl.simulation view viewProjection)
      (scene.frameCalls objects view viewProjection count) none := by
  rw [Scene.render_swirl_eq _ _ hlive]
  apply Issues.congr
  · exact (Scene.issues_openFrame _ _ _ _ hcount).bind fun _ =>
      (issues_renderSwirl viewProjection scene.particles view).bind fun _ =>
        (Scene.issues_closeFrame _ _ _ _).bind fun _ => .done _
  · simp [Scene.frameCalls, Swirl.frameCalls]

theorem issues_renderScene_overflow (hlive : scene.objects = some objects) {cause : Abort}
    (hcount : scene.config.gridVertexCount = .error cause) :
    Issues (scene.render Swirl.simulation view viewProjection)
      (scene.brokenCalls objects viewProjection) (some cause) := by
  rw [Scene.render_swirl_eq _ _ hlive]
  exact (Scene.issues_openFrame_overflow _ _ _ _ hcount).bind_abort

theorem Scene.inFrame_of_mem_frameCalls (count : Int) :
    ∀ call ∈ scene.frameCalls objects view viewProjection count, call.inFrame = true := by
  have hparticles : ∀ call ∈ scene.particles.frameCalls view viewProjection,
      call.inFrame = true := by
    unfold Swirl.frameCalls
    cases scene.particles.objects with
    | none => exact List.forall_mem_nil _
    | some own =>
      exact Turn.inFrame_of_mem_calls (by simp [Turn.particles, GraphicsCall.inFrame])
  unfold frameCalls
  simp only [List.forall_mem_append]
  exact ⟨⟨inFrame_of_mem_openingCalls _ _ _ _ _, hparticles⟩, inFrame_of_mem_closingCalls _ _ _ _⟩

/-- A frame whose grid cannot be drawn begins like one whose grid has any number of vertices. -/
theorem Scene.brokenCalls_isPrefix (count : Int) :
    scene.brokenCalls objects viewProjection <+:
      scene.frameCalls objects view viewProjection count := by
  unfold brokenCalls frameCalls openingCalls Turn.calls
  simp only [List.append_assoc, List.cons_append]
  exact (List.prefix_append_right_inj _).mpr
    ((List.prefix_cons_inj _).mpr (List.prefix_append _ _))

end Swirl

end Shaderbox
