import Mathlib.Logic.Equiv.Functor
import Shaderbox.Proofs.FramePasses
import Shaderbox.Proofs.SceneCustody
import Shaderbox.Proofs.SwirlObjects

/-!
# Other names for the same objects

The device is free in the names that it gives to programs and vertex arrays. A renaming replaces
them throughout a program, in what the program asks and in what it is answered, and the runs of the
renamed program are the renamed runs. A frame that is drawn with renamed objects is the renamed
frame, as far as the simulation keeps to that.

Locations of uniforms stay as they are, and so do shaders, which no scene keeps.
-/

namespace Shaderbox

open Interaction

/-- Other names for programs and vertex arrays, of which no two become one. -/
structure Renaming where
  program : Equiv.Perm ProgramId
  vertexArray : Equiv.Perm VertexArrayId

namespace Renaming

variable (names : Renaming) {α β : Type}

/-- An object under its other name. -/
def object : DeviceObject → DeviceObject
  | .shader id => .shader id
  | .program id => .program (names.program id)
  | .vertexArray id => .vertexArray (names.vertexArray id)

/-- A call with other names in it. -/
def call : GraphicsCall → GraphicsCall
  | .attachShader program shader => .attachShader (names.program program) shader
  | .linkProgram program => .linkProgram (names.program program)
  | .linkStatus program => .linkStatus (names.program program)
  | .programLog program => .programLog (names.program program)
  | .validateProgram program => .validateProgram (names.program program)
  | .validateStatus program => .validateStatus (names.program program)
  | .deleteProgram program => .deleteProgram (names.program program)
  | .useProgram program => .useProgram (program.map names.program)
  | .uniformLocation program name => .uniformLocation (names.program program) name
  | .bindVertexArray array => .bindVertexArray (array.map names.vertexArray)
  | .deleteVertexArray array => .deleteVertexArray (names.vertexArray array)
  | call => call

/-- The answers to a call, and those to the call with other names in it. -/
def answer : (call : GraphicsCall) → call.Answer ≃ (names.call call).Answer
  | .createProgram => Functor.mapEquiv (Except String) names.program
  | .createVertexArray => Functor.mapEquiv (Except String) names.vertexArray
  | .createShader _ | .shaderSource .. | .compileShader _ | .compileStatus _ | .shaderLog _
  | .deleteShader _ | .attachShader .. | .linkProgram _ | .linkStatus _ | .programLog _
  | .validateProgram _ | .validateStatus _ | .deleteProgram _ | .useProgram _
  | .uniformLocation .. | .setUniformSingle .. | .setUniformVec4 .. | .setUniformMat4 ..
  | .bindVertexArray _ | .deleteVertexArray _ | .drawLines .. | .drawPoints .. | .setViewport ..
  | .setClearColor _ | .clear | .setDepthTest _ | .setBlend _ | .enableProgramPointSize
  | .lastError => .refl _

/-- An exchange with other names in it. -/
def exchange : Exchange (Effects Graphics) → Exchange (Effects Graphics)
  | ⟨.graphics call, answer⟩ => ⟨.graphics (names.call call), names.answer call answer⟩
  | exchange => exchange

/-- A request under other names, whose answer is read under the names at first. -/
def request : (request : Request Graphics) → Action request.Answer
  | .graphics call =>
    (Action.graphics (names.call call)).bind fun answer =>
      .done ((names.answer call).symm answer)
  | .window call => Action.window call
  | .log record => Interaction.request (I := Effects Graphics) (.log record)
  | .observe observation => Action.observe observation

/-- A program under other names. -/
def action (program : Action α) : Action α :=
  program.interpret names.request

/-- The runs of a renamed program are the renamed runs. -/
theorem yields_action_iff {program : Action α} {exchanges : List (Exchange (Effects Graphics))}
    {outcome : Except Abort α} :
    Yields (names.action program) exchanges outcome ↔
      ∃ before, Yields program before outcome ∧ before.map names.exchange = exchanges := by
  induction program generalizing exchanges with
  | done result =>
    constructor
    · intro h
      cases h
      exact ⟨[], .done result, rfl⟩
    · rintro ⟨before, h, rfl⟩
      cases h
      exact .done result
  | abort cause =>
    constructor
    · intro h
      cases h
      exact ⟨[], .abort cause, rfl⟩
    · rintro ⟨before, h, rfl⟩
      cases h
      exact .abort cause
  | ask request resume ih =>
    constructor
    · intro h
      cases request with
      | graphics call =>
        cases h with
        | ask _ _ answer hrest =>
          obtain ⟨before, hbefore, rfl⟩ := (ih _).mp hrest
          refine ⟨⟨.graphics call, (names.answer call).symm answer⟩ :: before,
            .ask _ _ _ hbefore, ?_⟩
          simp [exchange]
      | _ =>
        cases h with
        | ask _ _ answer hrest =>
          obtain ⟨before, hbefore, rfl⟩ := (ih _).mp hrest
          exact ⟨_ :: before, .ask _ _ answer hbefore, rfl⟩
    · rintro ⟨before, h, rfl⟩
      cases h with
      | ask _ _ answer hrest =>
        have hrenamed := (ih answer).mpr ⟨_, hrest, rfl⟩
        cases request with
        | graphics call =>
          refine .ask (I := Effects Graphics) (.graphics (names.call call)) _
            (names.answer call answer) ?_
          simp only [done_bind, Equiv.symm_apply_apply]
          exact hrenamed
        | _ => exact .ask _ _ answer hrenamed

/-- A program is renamed step by step. -/
theorem action_bind (program : Action α) (next : α → Action β) :
    names.action (program.bind next) =
      (names.action program).bind fun result => names.action (next result) :=
  interpret_bind _ program next

end Renaming

section Objects

variable (names : Renaming)

/-- A program under its other name. -/
def ProgramHandle.rename (program : ProgramHandle) : ProgramHandle :=
  { program with id := names.program program.id }

/-- The programs of a scene under their other names. -/
def ScenePrograms.rename (programs : ScenePrograms) : ScenePrograms :=
  { programs with basic := programs.basic.rename names, grid := programs.grid.rename names }

/-- The objects of a scene under their other names. -/
def SceneObjects.rename (objects : SceneObjects) : SceneObjects where
  programs := objects.programs.rename names
  vertexArray := ⟨names.vertexArray objects.vertexArray.id⟩

end Objects

section Frames

variable (names : Renaming) (table : UniformTable) (semantic : String)

namespace Renaming

/-- Setting a uniform names no object. -/
theorem action_set {call : UniformLocation → Action Unit}
    (hcall : ∀ location, names.action (call location) = call location) :
    names.action (table.set semantic call) = table.set semantic call := by
  unfold UniformTable.set
  split
  · exact hcall _
  · rfl

@[simp] theorem action_setSingle (value : Float32) :
    names.action (table.setSingle semantic value) = table.setSingle semantic value :=
  names.action_set table semantic fun _ => rfl

@[simp] theorem action_setVec4 (value : Vec4) :
    names.action (table.setVec4 semantic value) = table.setVec4 semantic value :=
  names.action_set table semantic fun _ => rfl

@[simp] theorem action_setMat4 (value : Mat4) :
    names.action (table.setMat4 semantic value) = table.setMat4 semantic value :=
  names.action_set table semantic fun _ => rfl

@[simp] theorem action_ofExcept {α : Type} (result : Except Abort α) :
    names.action (.ofExcept result) = .ofExcept result := by
  cases result <;> rfl

@[simp] theorem action_ite {α : Type} (condition : Prop) [Decidable condition]
    (first second : Action α) :
    names.action (if condition then first else second) =
      if condition then names.action first else names.action second :=
  apply_ite names.action condition first second

@[simp] theorem action_pollError (site : PollSite) (message : String) :
    names.action (pollError site message .log) = pollError site message .log := by
  simp only [pollError, bind_eq, action_bind, action_ite]
  rfl

variable (programs : ScenePrograms) (objects : SceneObjects) (viewProjection : Mat4)

@[simp] theorem action_drawBox (transformation : Mat4) (color : Vec4) :
    names.action (Scene.drawBox programs transformation color) =
      Scene.drawBox (programs.rename names) transformation color := by
  simp only [Scene.drawBox, bind_eq, action_bind, action_setMat4, action_setVec4]
  rfl

@[simp] theorem action_drawGrid (config : SceneConfig) (boxSize : Float32) :
    names.action (Scene.drawGrid config programs boxSize viewProjection) =
      Scene.drawGrid config (programs.rename names) boxSize viewProjection := by
  simp only [Scene.drawGrid, bind_eq, action_bind, action_setMat4, action_setSingle,
    action_ofExcept]
  rfl

@[simp] theorem action_setPassState (depthTest : Bool) (blend : BlendMode) :
    names.action (Scene.setPassState depthTest blend) = Scene.setPassState depthTest blend :=
  rfl

theorem action_openFrame (config : SceneConfig) (boxSize : Float32) :
    names.action (Scene.openFrame config objects boxSize viewProjection) =
      Scene.openFrame config (objects.rename names) boxSize viewProjection := by
  simp only [Scene.openFrame, bind_eq, action_bind, action_drawGrid, action_setPassState]
  rfl

theorem action_closeFrame (boxSize : Float32) (dimensions : Vec3) :
    names.action (Scene.closeFrame objects boxSize dimensions viewProjection) =
      Scene.closeFrame (objects.rename names) boxSize dimensions viewProjection := by
  simp only [Scene.closeFrame, bind_eq, action_bind, action_drawBox, action_setPassState,
    action_pollError]
  rfl

end Renaming

end Frames

section Extension

/-- A permutation may be changed to take any value at a place where nothing is settled yet, if that
value is not taken where something is. -/
theorem exists_perm_taking {α : Type} [DecidableEq α] (perm : Equiv.Perm α) (settled : α → Prop)
    {place value : α} (hplace : ¬ settled place) (hvalue : ∀ other, settled other →
      perm other ≠ value) :
    ∃ changed : Equiv.Perm α, changed place = value ∧
      ∀ other, settled other → changed other = perm other := by
  refine ⟨perm.trans (Equiv.swap (perm place) value), by simp, fun other hother => ?_⟩
  have hne : perm other ≠ perm place := fun heq => hplace (perm.injective heq ▸ hother)
  rw [Equiv.trans_apply, Equiv.swap_apply_of_ne_of_ne hne (hvalue other hother)]

variable {objects others : SceneObjects} {held left : Multiset DeviceObject}

/-- Objects of a scene that differ in their names, and from those of its particles. -/
structure SceneObjects.Apart (objects : SceneObjects) (held : Multiset DeviceObject) : Prop where
  programs : objects.programs.basic.id ≠ objects.programs.grid.id
  basic : .program objects.programs.basic.id ∉ held
  grid : .program objects.programs.grid.id ∉ held
  vertexArray : .vertexArray objects.vertexArray.id ∉ held

theorem SceneObjects.apart_of_nodup
    (h : (objects.programs.objects + ({.vertexArray objects.vertexArray.id} + held)).Nodup) :
    objects.Apart held := by
  simp [ScenePrograms.objects] at h
  exact ⟨h.2.1.1, h.2.1.2, h.2.2.1, h.1⟩

/-- Names for what the particles of a scene own can be made names for all that the scene owns. -/
theorem Renaming.exists_extension {own : Renaming} (hheld : held.map own.object = left)
    (hobjects : objects.Apart held) (hothers : others.Apart left) :
    ∃ names : Renaming, (∀ object ∈ held, names.object object = own.object object) ∧
      names.program objects.programs.basic.id = others.programs.basic.id ∧
      names.program objects.programs.grid.id = others.programs.grid.id ∧
      names.vertexArray objects.vertexArray.id = others.vertexArray.id := by
  have hprogram (id : ProgramId) (hid : .program id ∈ held) : .program (own.program id) ∈ left :=
    hheld ▸ Multiset.mem_map_of_mem own.object hid
  have hbasicFree (id : ProgramId) (hid : .program id ∈ held) :
      own.program id ≠ others.programs.basic.id :=
    fun heq => hothers.basic (heq ▸ hprogram id hid)
  have harrayFree (id : VertexArrayId) (hid : .vertexArray id ∈ held) :
      own.vertexArray id ≠ others.vertexArray.id :=
    fun heq => hothers.vertexArray (heq ▸ hheld ▸ Multiset.mem_map_of_mem own.object hid)
  obtain ⟨first, hbasic, hfirst⟩ := exists_perm_taking own.program _ hobjects.basic hbasicFree
  -- behind this the first program is settled as well
  have hfree : ¬ (objects.programs.grid.id = objects.programs.basic.id ∨
      .program objects.programs.grid.id ∈ held) :=
    not_or.mpr ⟨hobjects.programs.symm, hobjects.grid⟩
  have hgridFree (id : ProgramId) (hid : id = objects.programs.basic.id ∨ .program id ∈ held) :
      first id ≠ others.programs.grid.id := by
    rintro heq
    rcases hid with rfl | hid
    · exact hothers.programs (hbasic.symm.trans heq)
    · exact hothers.grid (heq ▸ hfirst id hid ▸ hprogram id hid)
  obtain ⟨second, hgrid, hsecond⟩ := exists_perm_taking first _ hfree hgridFree
  obtain ⟨array, harray, hkept⟩ :=
    exists_perm_taking own.vertexArray _ hobjects.vertexArray harrayFree
  refine ⟨⟨second, array⟩, fun object hobject => ?_, ?_, hgrid, harray⟩
  · cases object with
    | shader id => rfl
    | program id =>
      exact congrArg DeviceObject.program ((hsecond id (.inr hobject)).trans (hfirst id hobject))
    | vertexArray id => exact congrArg DeviceObject.vertexArray (hkept id hobject)
  · exact (hsecond _ (.inl rfl)).trans hbasic

end Extension

section Drawing

variable {σ : Type} {simulation : ParticleSimulation σ} {held : σ → Multiset DeviceObject}

/-- What a program does, whatever its result. -/
def Interaction.discard {I : Interface} {α : Type} (program : Interaction I α) :
    Interaction I Unit :=
  program.bind fun _ => .done ()

/-- What a scene sees of the particles when these are drawn: the calls, and their extents behind
that. -/
def ParticleSimulation.draw (simulation : ParticleSimulation σ) (view viewProjection : Mat4)
    (particles : σ) : Action (Float32 × Vec3) :=
  (simulation.render view viewProjection particles).bind fun next =>
    .done (simulation.boxSize next, simulation.fieldDimensions next)

/-- Whether particles have the same extents as others and are drawn alike, when their objects are
named as the others name theirs. -/
structure ParticlesAlike (simulation : ParticleSimulation σ) (held : σ → Multiset DeviceObject)
    (own : Renaming) (particles others : σ) : Prop where
  objects : (held particles).map own.object = held others
  boxSize : simulation.boxSize particles = simulation.boxSize others
  drawn : ∀ names : Renaming, (∀ object ∈ held particles, names.object object = own.object object) →
    ∀ view viewProjection, names.action (simulation.draw view viewProjection particles) =
      simulation.draw view viewProjection others

/-- A frame of a live scene, of which the simulation draws a part. -/
theorem Scene.discard_render (simulation : ParticleSimulation σ) (view viewProjection : Mat4)
    {scene : Scene σ} {objects : SceneObjects} (hobjects : scene.objects = some objects) :
    (scene.render simulation view viewProjection).discard =
      (openFrame scene.config objects (simulation.boxSize scene.particles) viewProjection).bind
        fun _ => (simulation.draw view viewProjection scene.particles).bind
          fun (boxSize, dimensions) => closeFrame objects boxSize dimensions viewProjection := by
  rw [render_eq simulation view viewProjection hobjects]
  simp only [Interaction.discard, ParticleSimulation.draw, Interaction.bind_assoc, done_bind]
  exact congrArg _ (funext fun _ => congrArg _ (funext fun _ => Interaction.bind_done _))

/-- A scene with other names for its objects draws the same frames under these names. -/
theorem Scene.action_render {scene other : Scene σ} {objects : SceneObjects} {names own : Renaming}
    (hobjects : scene.objects = some objects) (hother : other.objects = some (objects.rename names))
    (hconfig : other.config = scene.config)
    (halike : ParticlesAlike simulation held own scene.particles other.particles)
    (hown : ∀ object ∈ held scene.particles, names.object object = own.object object)
    (view viewProjection : Mat4) :
    names.action (scene.render simulation view viewProjection).discard =
      (other.render simulation view viewProjection).discard := by
  rw [discard_render simulation view viewProjection hobjects,
    discard_render simulation view viewProjection hother, Renaming.action_bind,
    Renaming.action_openFrame, hconfig, halike.boxSize]
  refine congrArg _ (funext fun _ => ?_)
  rw [Renaming.action_bind, halike.drawn names hown]
  exact congrArg _ (funext fun _ => Renaming.action_closeFrame ..)

end Drawing

section Swirl

variable (names : Renaming)

/-- Particles with other names for their objects. -/
def SwirlObjects.rename (objects : SwirlObjects) : SwirlObjects where
  program := objects.program.rename names
  uniforms := objects.uniforms
  vertexArray := ⟨names.vertexArray objects.vertexArray.id⟩

/-- Particles with other names for their objects, if they have any. -/
def Swirl.rename (swirl : Swirl) : Swirl :=
  { swirl with objects := swirl.objects.map (SwirlObjects.rename names) }

theorem Renaming.action_renderSwirl (swirl : Swirl) (view viewProjection : Mat4) :
    names.action (swirl.render view viewProjection) =
      (swirl.rename names).render view viewProjection := by
  obtain ⟨shaders, count, boxSize, spriteSize, time, objects⟩ := swirl
  cases objects with
  | none => rfl
  | some objects =>
    simp only [Swirl.render, Swirl.rename, Option.map_some, bind_eq, Renaming.action_bind,
      Renaming.action_setMat4, Renaming.action_setSingle]
    rfl

/-- Particles depend on nothing but the names of what they own. -/
theorem Swirl.rename_congr {names own : Renaming} {swirl : Swirl}
    (h : ∀ object ∈ swirl.owned, names.object object = own.object object) :
    swirl.rename names = swirl.rename own := by
  obtain ⟨shaders, count, boxSize, spriteSize, time, objects⟩ := swirl
  cases objects with
  | none => rfl
  | some objects =>
    have hprogram : names.program objects.program.id = own.program objects.program.id :=
      DeviceObject.program.inj
        (h (.program objects.program.id) (by simp [owned, SwirlObjects.owned]))
    have harray : names.vertexArray objects.vertexArray.id =
        own.vertexArray objects.vertexArray.id :=
      DeviceObject.vertexArray.inj
        (h (.vertexArray objects.vertexArray.id) (by simp [owned, SwirlObjects.owned]))
    simp only [rename, Option.map_some, SwirlObjects.rename, ProgramHandle.rename, hprogram,
      harray]

/-- The swirling particles are drawn alike under all names. -/
theorem Swirl.alike (swirl : Swirl) (own : Renaming) :
    ParticlesAlike Swirl.simulation owned own swirl (swirl.rename own) where
  objects := by
    obtain ⟨shaders, count, boxSize, spriteSize, time, objects⟩ := swirl
    cases objects <;> rfl
  boxSize := rfl
  drawn := by
    intro names hnames view viewProjection
    rw [← rename_congr hnames]
    have hdraw (swirl : Swirl) : Swirl.simulation.draw view viewProjection swirl =
        (swirl.render view viewProjection).bind fun _ =>
          .done (swirl.boxSize, Swirl.simulation.fieldDimensions swirl) :=
      Interaction.bind_assoc _ _ _
    rw [hdraw, hdraw, Renaming.action_bind, Renaming.action_renderSwirl]
    rfl

end Swirl

end Shaderbox
