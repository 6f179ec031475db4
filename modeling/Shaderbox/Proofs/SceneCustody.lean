import Shaderbox.Proofs.Custody
import Shaderbox.Proofs.Outward
import Shaderbox.Proofs.Refusals
import Shaderbox.Proofs.Reload

/-!
# What a scene owns

A live scene owns its two programs, its vertex array and what its particles own; a scene that was
deinitialized owns nothing. Creating a scene leaves what the new scene owns, or nothing, and every
operation turns what the scene owned into what it owns then. The simulation is only asked to keep
account of the objects of its own states.
-/

namespace Shaderbox

open Interaction

variable {σ : Type} {simulation : ParticleSimulation σ} {held : σ → Multiset DeviceObject}

/-- What a scene owns, when its particles own the given objects. -/
def Scene.owned (held : σ → Multiset DeviceObject) (scene : Scene σ) : Multiset DeviceObject :=
  match scene.objects with
  | none => 0
  | some objects =>
    objects.programs.objects + ({.vertexArray objects.vertexArray.id} + held scene.particles)

/-- Whether a simulation, once it was initialized, keeps account of what its states own and leaves
nothing when it is deinitialized. -/
structure KeepsAccount (simulation : ParticleSimulation σ) (held : σ → Multiset DeviceObject) :
    Prop where
  update : ∀ dt view particles,
    Custody (held particles) (simulation.update dt view particles) held
  render : ∀ view viewProjection particles,
    Custody (held particles) (simulation.render view viewProjection particles) held
  deinit : ∀ particles, Custody (held particles) (simulation.deinit particles) fun _ => 0

section Creation

variable {files : Files} {config : SceneConfig} {particles : σ}
  {first : List (Exchange Graphics) → σ → Prop}

/-- The traces of creating a scene whose particles are initialized by one of the given traces, and
what it comes to. -/
inductive CreateTrace (files : Files) (config : SceneConfig)
    (first : List (Exchange Graphics) → σ → Prop) :
    List (Exchange Graphics) → Except CreateError (Scene σ) → Prop where
  /-- All objects of the scene were granted. -/
  | created {built : SceneProgramsBuild} {trace initialization : List (Exchange Graphics)}
      {particles : σ} (array : VertexArrayId) (code : Nat)
      (build : SceneBuildTrace files config trace (.ok built))
      (initialized : first initialization particles) :
      CreateTrace files config first
        (trace ++ ⟨.createVertexArray, .ok array⟩ :: (initialization ++
          [⟨.setClearColor config.clearColor, ()⟩, ⟨.enableProgramPointSize, ()⟩,
            ⟨.lastError, code⟩]))
        (.ok ⟨config, some ⟨built.programs, ⟨array⟩⟩, particles, built.findings⟩)
  /-- The programs could not be built. -/
  | programsRefused {error : CreateError} {trace : List (Exchange Graphics)}
      (build : SceneBuildTrace files config trace (.error error)) :
      CreateTrace files config first trace (.error error)
  /-- The vertex array was refused, and the programs are deleted. -/
  | arrayRefused {built : SceneProgramsBuild} {trace : List (Exchange Graphics)} (reason : String)
      (build : SceneBuildTrace files config trace (.ok built)) :
      CreateTrace files config first
        (trace ++ ⟨.createVertexArray, .error reason⟩ :: built.programs.deletions)
        (.error ⟨.vertexArray, reason⟩)

/-- An error that is only logged does not end the process. -/
theorem ensures_pollError (site : PollSite) (message : String) :
    Ensures (pollError site message .log) fun trace _ => ∃ code, trace = [⟨.lastError, code⟩] := by
  apply ensures_graphics_bind
  intro code
  dsimp only
  split
  · exact ensures_done ⟨code, rfl⟩
  · exact ensures_log_bind (ensures_done ⟨code, rfl⟩)

/-- When there is a buffer for the sources and the particles can be initialized, creating a scene
comes to a result, and what it does to the device is one of its traces. -/
theorem ensures_create {buffer : SourceBuffer} (hbuffer : sourceBuffer config.shaders = .ok buffer)
    (hinit : Ensures (simulation.init files particles) first) :
    Ensures (Scene.create files simulation particles config)
      (CreateTrace files config first) := by
  apply (ensures_buildScenePrograms hbuffer).bind
  intro trace result hbuild
  cases result with
  | error error =>
    refine ensures_done ?_
    rw [List.append_nil]
    exact .programsRefused hbuild
  | ok built =>
    apply ensures_graphics_bind
    intro answer
    cases answer with
    | error reason =>
      apply ensures_graphics_bind
      intro _
      exact ensures_graphics_bind fun _ => ensures_done (.arrayRefused reason hbuild)
    | ok array =>
      change Ensures (((simulation.init files particles).onAbort _).bind _) _
      rw [onAbort_eq_self hinit.neverAborts]
      apply hinit.bind
      intro initialization next hnext
      apply ensures_graphics_bind
      intro _
      apply ensures_graphics_bind
      intro _
      apply (ensures_pollError _ _).bind
      rintro _ _ ⟨code, rfl⟩
      exact ensures_log_bind (ensures_done (.created array code hbuild hnext))

variable {trace : List (Exchange Graphics)} {result : Except CreateError (Scene σ)}

/-- A new scene owns what was created for it and what its particles have made of what they owned. -/
theorem CreateTrace.aliveAfter_created {scene : Scene σ} {before : Multiset DeviceObject}
    (h : CreateTrace files config first trace (.ok scene))
    (hfirst : ∀ initialization next, first initialization next → ∀ alive,
      aliveAfter (before + alive) initialization = some (held next + alive))
    (alive : Multiset DeviceObject) :
    aliveAfter (before + alive) trace = some (scene.owned held + alive) := by
  cases h with
  | @created built _ _ _ array code build initialized =>
    have hinitialized := hfirst _ _ initialized
      (built.programs.objects + {.vertexArray array} + alive)
    rw [aliveAfter_append, build.aliveAfter_eq, Option.bind_some,
      aliveAfter_cons (by simp [GraphicsCall.named]), aliveAfter_append]
    dsimp only [leftBy, GraphicsCall.deleted, Exchange.created]
    rw [tsub_zero, show built.programs.objects + (before + alive) + {.vertexArray array} =
        before + (built.programs.objects + {.vertexArray array} + alive) by ac_rfl, hinitialized,
      Option.bind_some, aliveAfter_of_keepsObjects rfl (by simp [GraphicsCall.named]),
      aliveAfter_of_keepsObjects rfl (by simp [GraphicsCall.named]),
      aliveAfter_of_keepsObjects rfl (by simp [GraphicsCall.named]), aliveAfter]
    dsimp only [Scene.owned]
    exact congrArg some (by ac_rfl)

/-- Creating a scene leaves what the scene owns, or nothing. -/
theorem CreateTrace.aliveAfter_eq (h : CreateTrace files config first trace result)
    (hfirst : ∀ initialization next, first initialization next → ∀ alive,
      aliveAfter alive initialization = some (held next + alive))
    (alive : Multiset DeviceObject) :
    aliveAfter alive trace = some (leftBy (Scene.owned held) result + alive) := by
  cases result with
  | ok scene =>
    have hnothing (initialization : List (Exchange Graphics)) (next : σ)
        (hnext : first initialization next) (others : Multiset DeviceObject) :
        aliveAfter (0 + others) initialization = some (held next + others) := by
      rw [zero_add]
      exact hfirst initialization next hnext others
    simpa only [zero_add, leftBy] using h.aliveAfter_created hnothing alive
  | error error =>
    cases h with
    | programsRefused build => exact build.aliveAfter_eq
    | arrayRefused reason build =>
      rw [aliveAfter_append, build.aliveAfter_eq, Option.bind_some, aliveAfter_refused rfl rfl rfl,
        leftBy, ScenePrograms.aliveAfter_deletions, leftBy, zero_add]

/-- The particles of a new scene are complete exactly when nothing was refused at all. -/
theorem CreateTrace.grantsAll_eq {scene : Scene σ} {complete : σ → Bool}
    (h : CreateTrace files config first trace (.ok scene))
    (hfirst : ∀ initialization next, first initialization next →
      grantsAll initialization = complete next) :
    grantsAll trace = complete scene.particles := by
  cases h with
  | @created _ _ initialization next array code build initialized =>
    have hrest : grantsAll (⟨.createVertexArray, .ok array⟩ :: (initialization ++
        [⟨.setClearColor config.clearColor, ()⟩, ⟨.enableProgramPointSize, ()⟩,
          ⟨.lastError, code⟩])) = grantsAll initialization := by
      simp [grantsAll, Exchange.refuses]
    rw [grantsAll_append, build.grantsAll_eq, hrest]
    exact hfirst _ _ initialized

/-- A new scene is live. -/
theorem CreateTrace.isLive {scene : Scene σ}
    (h : CreateTrace files config first trace (.ok scene)) : scene.isLive = true := by
  cases h
  rfl

end Creation

section Drawing

variable {before : Multiset DeviceObject}

theorem custody_pollError (site : PollSite) (message : String) :
    Custody before (pollError site message .log) fun _ => before := by
  refine (ensures_pollError site message).custody ?_
  rintro _ _ ⟨code, rfl⟩ others
  exact aliveAfter_of_keepsObjects rfl (by simp [GraphicsCall.named])

theorem custody_setPassState (depthTest : Bool) (blend : BlendMode) :
    Custody before (Scene.setPassState depthTest blend) fun _ => before :=
  custody_plain_bind rfl rfl fun _ => custody_plain rfl rfl

variable {programs : ScenePrograms}

theorem custody_drawGrid {config : SceneConfig} {count : Int} {boxSize : Float32}
    {viewProjection : Mat4} (hgrid : config.gridVertexCount = .ok count)
    (hprograms : programs.objects ≤ before) :
    Custody before (Scene.drawGrid config programs boxSize viewProjection) fun _ => before := by
  have hbound : DeviceObject.program programs.grid.id ∈ before :=
    Multiset.mem_of_le hprograms (by simp [ScenePrograms.objects])
  unfold Scene.drawGrid
  rw [hgrid]
  refine custody_call_bind rfl (by simpa [GraphicsCall.named]) fun _ => ?_
  refine (custody_setMat4 _ _ _).bind fun _ => (custody_setSingle _ _ _).bind fun _ => ?_
  refine (custody_setSingle _ _ _).bind fun _ => ?_
  exact custody_plain_bind rfl rfl fun _ => custody_plain rfl rfl

theorem custody_drawBox {transformation : Mat4} {color : Vec4}
    (hprograms : programs.objects ≤ before) :
    Custody before (Scene.drawBox programs transformation color) fun _ => before := by
  have hbound : DeviceObject.program programs.basic.id ∈ before :=
    Multiset.mem_of_le hprograms (by simp [ScenePrograms.objects])
  refine custody_call_bind rfl (by simpa [GraphicsCall.named]) fun _ => ?_
  refine (custody_setMat4 _ _ _).bind fun _ => (custody_setVec4 _ _ _).bind fun _ => ?_
  exact custody_plain_bind rfl rfl fun _ => custody_plain rfl rfl

end Drawing

section Operations

variable {scene : Scene σ}

/-- Drawing a frame uses nothing but what the scene owns, and changes only what the particles
own. -/
theorem custody_renderWith (hsimulation : KeepsAccount simulation held) {config : SceneConfig}
    {count : Int} (hgrid : config.gridVertexCount = .ok count) (view viewProjection : Mat4)
    (objects : SceneObjects) (particles : σ) :
    Custody (objects.programs.objects + ({.vertexArray objects.vertexArray.id} + held particles))
      (Scene.renderWith simulation view viewProjection config objects particles)
      fun next =>
        objects.programs.objects + ({.vertexArray objects.vertexArray.id} + held next) := by
  have hbound (particles : σ) : ∀ object ∈
      (GraphicsCall.bindVertexArray (some objects.vertexArray.id)).named,
      object ∈ objects.programs.objects +
        ({.vertexArray objects.vertexArray.id} + held particles) := by
    simp [GraphicsCall.named]
  refine custody_plain_bind rfl rfl fun _ => custody_call_bind rfl (hbound _) fun _ => ?_
  refine (custody_setPassState _ _).bind fun _ => ?_
  refine (custody_drawGrid hgrid (Multiset.le_add_right _ _)).bind fun _ => ?_
  refine (custody_setPassState _ _).bind fun _ => ?_
  refine (hsimulation.render view viewProjection particles).bind_part
    (objects.programs.objects + {.vertexArray objects.vertexArray.id}) (by ac_rfl) fun next => ?_
  rw [show held next + (objects.programs.objects + {.vertexArray objects.vertexArray.id}) =
    objects.programs.objects + ({.vertexArray objects.vertexArray.id} + held next) by ac_rfl]
  refine custody_call_bind rfl (hbound _) fun _ => (custody_setPassState _ _).bind fun _ => ?_
  refine (custody_drawBox (Multiset.le_add_right _ _)).bind fun _ => ?_
  refine (custody_drawBox (Multiset.le_add_right _ _)).bind fun _ => ?_
  refine custody_plain_bind rfl rfl fun _ => ?_
  exact (custody_pollError _ _).bind fun _ => custody_done rfl

theorem custody_update (hsimulation : KeepsAccount simulation held) (view : Mat4) (dt : Float32)
    (scene : Scene σ) :
    Custody (scene.owned held) (scene.update simulation view dt) (Scene.owned held) := by
  obtain ⟨config, objects, particles, findings⟩ := scene
  cases objects with
  | none => exact custody_done rfl
  | some objects =>
    refine (hsimulation.update dt view particles).bind_part
      (objects.programs.objects + {.vertexArray objects.vertexArray.id}) ?_ fun next => ?_
    · dsimp only [Scene.owned]
      ac_rfl
    · refine custody_done ?_
      dsimp only [Scene.owned]
      ac_rfl

theorem custody_render (hsimulation : KeepsAccount simulation held) {count : Int}
    (hgrid : scene.config.gridVertexCount = .ok count) (view viewProjection : Mat4) :
    Custody (scene.owned held) (scene.render simulation view viewProjection)
      (Scene.owned held) := by
  obtain ⟨config, objects, particles, findings⟩ := scene
  cases objects with
  | none => exact custody_done rfl
  | some objects =>
    refine (custody_renderWith hsimulation hgrid view viewProjection objects particles).bind
      fun next => ?_
    exact custody_done rfl

theorem ReloadTrace.aliveAfter_eq {files : Files} {objects : SceneObjects}
    {trace : List (Exchange Graphics)} {result : Except CreateError Bool} {next : Scene σ}
    (hobjects : scene.objects = some objects)
    (h : ReloadTrace files scene objects trace (result, next)) (alive : Multiset DeviceObject) :
    aliveAfter (scene.owned held + alive) trace = some (next.owned held + alive) := by
  obtain ⟨config, _, particles, findings⟩ := scene
  obtain rfl := hobjects
  cases h with
  | @replaced built _ hbuild =>
    rw [aliveAfter_append, hbuild.aliveAfter_eq, Option.bind_some]
    dsimp only [Scene.owned, leftBy]
    rw [show built.programs.objects + (objects.programs.objects +
        ({.vertexArray objects.vertexArray.id} + held particles) + alive) =
      objects.programs.objects + (built.programs.objects +
        ({.vertexArray objects.vertexArray.id} + held particles) + alive) by ac_rfl]
    exact ScenePrograms.aliveAfter_deletions _
  | kept hbuild =>
    rw [aliveAfter_append, hbuild.aliveAfter_eq, Option.bind_some]
    exact ScenePrograms.aliveAfter_deletions _
  | refused hbuild =>
    rw [hbuild.aliveAfter_eq, leftBy, zero_add]

theorem custody_reload (files : Files)
    (hbuffer : ∃ buffer, sourceBuffer scene.config.shaders = .ok buffer) :
    Custody (scene.owned held) (scene.reload files) fun answer => answer.2.owned held := by
  obtain ⟨buffer, hbuffer⟩ := hbuffer
  cases hobjects : scene.objects with
  | none =>
    unfold Scene.reload
    rw [hobjects]
    exact custody_done rfl
  | some objects =>
    exact (ensures_reload hobjects hbuffer).custody
      fun _ _ htrace => htrace.aliveAfter_eq hobjects

theorem custody_releasePrograms (programs : ScenePrograms) :
    Custody programs.objects programs.release fun _ => 0 := by
  rw [ScenePrograms.objects, Multiset.insert_eq_cons, ← Multiset.singleton_add]
  refine custody_delete_bind rfl rfl (fun _ => rfl) fun _ => ?_
  exact custody_delete rfl rfl fun _ => rfl

theorem custody_deinit (hsimulation : KeepsAccount simulation held) (scene : Scene σ) :
    Custody (scene.owned held) (scene.deinit simulation) (Scene.owned held) := by
  obtain ⟨config, objects, particles, findings⟩ := scene
  cases objects with
  | none => exact custody_done rfl
  | some objects =>
    refine (hsimulation.deinit particles).bind_part
      (objects.programs.objects + {.vertexArray objects.vertexArray.id}) ?_ fun next => ?_
    · dsimp only [Scene.owned]
      ac_rfl
    · rw [zero_add]
      refine (custody_releasePrograms _).bind_part _ rfl fun _ => ?_
      rw [add_comm]
      exact custody_delete_bind rfl rfl (fun _ => rfl) fun _ =>
        custody_log_bind (custody_done rfl)

/-- Behind a deinitialization the scene is no longer live. -/
theorem returns_deinit (simulation : ParticleSimulation σ) (scene : Scene σ) :
    Returns (scene.deinit simulation) fun next => next.objects = none := by
  unfold Scene.deinit
  split
  · rename_i hobjects
    exact returns_done hobjects
  · refine returns_bind fun _ => returns_bind fun _ => returns_bind fun _ => ?_
    exact returns_bind fun _ => returns_done rfl

/-- Dropping a scene leaves nothing. -/
theorem custody_drop (hsimulation : KeepsAccount simulation held) (scene? : Option (Scene σ)) :
    Custody (scene?.elim 0 (Scene.owned held)) (Scene.drop simulation scene?) fun _ => 0 := by
  cases scene? with
  | none => exact custody_done rfl
  | some scene =>
    refine (custody_deinit hsimulation scene).bind_of_returns (returns_deinit simulation scene)
      fun next hnext => custody_done ?_
    rw [Scene.owned, hnext]

/-- An operation turns what a scene owns into what it owns then. -/
theorem custody_perform (hsimulation : KeepsAccount simulation held)
    (hbuffer : ∃ buffer, sourceBuffer scene.config.shaders = .ok buffer)
    (hgrid : ∃ count, scene.config.gridVertexCount = .ok count) (operation : SceneOperation) :
    Custody (scene.owned held) (operation.perform simulation scene) (Scene.owned held) := by
  cases operation with
  | update view dt => exact custody_update hsimulation view dt scene
  | render view viewProjection =>
    obtain ⟨count, hcount⟩ := hgrid
    exact custody_render hsimulation hcount view viewProjection
  | reload files => exact (custody_reload files hbuffer).bind fun _ => custody_done rfl
  | deinit => exact custody_deinit hsimulation scene

end Operations

end Shaderbox
