import Shaderbox.Demo.Swirl
import Shaderbox.Proofs.Custody
import Shaderbox.Proofs.Outward
import Shaderbox.Proofs.Refusals

/-!
# The objects of the swirling particles

What creating the objects of the particles does to the device is written out for every refusal. The
particles end up with their program and their vertex array, or with nothing, and then nothing is
left behind. Drawing names nothing but what they own, and in nothing of this is anybody asked but the
device and the log.
-/

namespace Shaderbox

open Interaction

/-- The objects of the particles as objects of the device. -/
def SwirlObjects.owned (objects : SwirlObjects) : Multiset DeviceObject :=
  {.program objects.program.id} + {.vertexArray objects.vertexArray.id}

/-- What particles own. -/
def Swirl.owned (swirl : Swirl) : Multiset DeviceObject :=
  swirl.objects.elim 0 SwirlObjects.owned

/-- The traces of creating the objects of the particles, and what they then own. -/
inductive SwirlBuildTrace (files : Files) (shaders : ShaderConfig) :
    List (Exchange Graphics) → Option SwirlObjects → Prop where
  /-- The program was built, a vertex array created, and the uniforms looked up. -/
  | built {buffer : SourceBuffer} {build : ProgramBuild} {trace : List (Exchange Graphics)}
      (array : VertexArrayId) (table : UniformTable)
      (program : BuildsFrom files shaders Swirl.sources buffer trace (.ok build))
      (lookedUp : table.entries.map UniformEntry.binding = particleUniforms) :
      SwirlBuildTrace files shaders
        (trace ++ ⟨.createVertexArray, .ok array⟩ :: table.lookups build.program.id)
        (some ⟨build.program, table, ⟨array⟩⟩)
  /-- The build of the program was refused an object. -/
  | programRefused {buffer : SourceBuffer} {error : CreateError} {trace : List (Exchange Graphics)}
      (refused : BuildsFrom files shaders Swirl.sources buffer trace (.error error)) :
      SwirlBuildTrace files shaders trace none
  /-- The vertex array was refused, and the program is deleted. -/
  | arrayRefused {buffer : SourceBuffer} {build : ProgramBuild} {trace : List (Exchange Graphics)}
      (reason : String)
      (program : BuildsFrom files shaders Swirl.sources buffer trace (.ok build)) :
      SwirlBuildTrace files shaders
        (trace ++ [⟨.createVertexArray, .error reason⟩, ⟨.deleteProgram build.program.id, ()⟩])
        none

namespace SwirlBuildTrace

variable {files : Files} {shaders : ShaderConfig} {trace : List (Exchange Graphics)}
  {objects : Option SwirlObjects}

/-- Behind their creation the particles own both of their objects or nothing. -/
theorem aliveAfter_eq (h : SwirlBuildTrace files shaders trace objects)
    (alive : Multiset DeviceObject) :
    aliveAfter alive trace = some (objects.elim 0 SwirlObjects.owned + alive) := by
  cases h with
  | built array table program =>
    rw [aliveAfter_append, program.aliveAfter_eq, Option.bind_some,
      aliveAfter_cons (by simp [GraphicsCall.named]), aliveAfter_lookups]
    · simp [GraphicsCall.deleted, Exchange.created, leftBy, ProgramBuild.objects,
        SwirlObjects.owned, add_comm alive]
    · simp [GraphicsCall.deleted, leftBy, ProgramBuild.objects]
  | programRefused refused => exact refused.aliveAfter_eq
  | arrayRefused reason program =>
    rw [aliveAfter_append, program.aliveAfter_eq, Option.bind_some,
      aliveAfter_cons (by simp [GraphicsCall.named]),
      aliveAfter_cons (by simp [GraphicsCall.named, GraphicsCall.deleted, Exchange.created, leftBy,
        ProgramBuild.objects])]
    simp [GraphicsCall.deleted, Exchange.created, leftBy, ProgramBuild.objects, aliveAfter]

/-- The particles get their objects exactly when all were granted. -/
theorem grantsAll_eq (h : SwirlBuildTrace files shaders trace objects) :
    grantsAll trace = objects.isSome := by
  cases h with
  | @built _ build _ array table program =>
    have hlookups : grantsAll (⟨.createVertexArray, .ok array⟩ ::
        table.lookups build.program.id) = true := grantsAll_lookups table _
    rw [grantsAll_append, program.grantsAll_eq, hlookups]
    rfl
  | programRefused refused => exact refused.grantsAll_eq
  | arrayRefused reason program =>
    rw [grantsAll_append, program.grantsAll_eq]
    rfl

end SwirlBuildTrace

namespace Swirl

variable {files : Files} {swirl : Swirl}

/-- When there is a buffer for the sources, creating the objects comes to a result, and what it does
to the device is one of its traces. -/
theorem ensures_build {shaders : ShaderConfig} {buffer : SourceBuffer}
    (hbuffer : sourceBuffer shaders = .ok buffer) :
    Ensures (build files shaders) (SwirlBuildTrace files shaders) := by
  have hsize := maxSourceSize_lt_of_sourceBuffer hbuffer
  have hdisabled (reason : String) {next : Option SwirlObjects → Action (Option SwirlObjects)}
      {spec : List (Exchange Graphics) → Option SwirlObjects → Prop}
      (h : Ensures (next none) spec) : Ensures ((disabled reason).bind next) spec :=
    ensures_log_bind h
  unfold build
  rw [hbuffer]
  apply (ensures_buildsFrom hsize sources buffer).bind
  rintro trace ⟨_, result⟩ hbuild
  cases result with
  | error error =>
    refine ensures_log_bind (ensures_done ?_)
    rw [List.append_nil]
    exact .programRefused hbuild
  | ok built =>
    apply ensures_log_when
    apply ensures_graphics_bind
    intro answer
    cases answer with
    | error reason =>
      refine ensures_log_bind (ensures_graphics_bind fun _ => ensures_done ?_)
      exact .arrayRefused reason hbuild
    | ok array =>
      apply (ensures_resolve built.program particleUniforms).bind
      rintro _ table ⟨hlookedUp, rfl⟩
      refine ensures_done ?_
      rw [List.append_nil]
      exact .built array table hbuild hlookedUp

/-- Deleting the objects of the particles, if there are any. -/
def deletions (objects? : Option SwirlObjects) : List (Exchange Graphics) :=
  objects?.elim [] fun objects =>
    [⟨.deleteProgram objects.program.id, ()⟩, ⟨.deleteVertexArray objects.vertexArray.id, ()⟩]

theorem ensures_release (objects? : Option SwirlObjects) :
    Ensures (release objects?) fun trace _ => trace = deletions objects? := by
  cases objects? with
  | none => exact ensures_done rfl
  | some objects =>
    exact ensures_graphics_bind fun _ => ensures_graphics_bind fun _ => ensures_done rfl

/-- Deleting the living objects of particles leaves the others. -/
theorem aliveAfter_deletions (swirl : Swirl) (others : Multiset DeviceObject) :
    aliveAfter (swirl.owned + others) (deletions swirl.objects) = some others := by
  unfold owned
  cases swirl.objects with
  | none =>
    change some (0 + others) = some others
    rw [zero_add]
  | some objects =>
    change aliveAfter (objects.owned + others) (_ :: _ :: []) = _
    rw [aliveAfter_cons (by simp [GraphicsCall.named, SwirlObjects.owned]),
      aliveAfter_cons (by
        simp [GraphicsCall.named, GraphicsCall.deleted, Exchange.created, SwirlObjects.owned])]
    simp [GraphicsCall.deleted, Exchange.created, SwirlObjects.owned, aliveAfter]

/-- The traces of initializing particles: their objects are created, and any that there were before
are deleted. -/
def InitTrace (files : Files) (swirl : Swirl) (trace : List (Exchange Graphics)) (next : Swirl) :
    Prop :=
  ∃ front, SwirlBuildTrace files swirl.shaders front next.objects ∧
    trace = front ++ deletions swirl.objects

theorem ensures_initAnew {buffer : SourceBuffer}
    (hbuffer : sourceBuffer swirl.shaders = .ok buffer) :
    Ensures (init files swirl) (InitTrace files swirl) := by
  apply (ensures_build hbuffer).bind
  intro front objects hbuild
  apply (ensures_release swirl.objects).bind
  rintro _ - rfl
  exact ensures_log_bind (ensures_done ⟨front, hbuild, by rw [List.append_nil]⟩)

/-- Initialized particles own their new objects in the place of those that they had before. -/
theorem InitTrace.aliveAfter_eq {trace : List (Exchange Graphics)} {next : Swirl}
    (h : InitTrace files swirl trace next) (others : Multiset DeviceObject) :
    aliveAfter (swirl.owned + others) trace = some (next.owned + others) := by
  obtain ⟨front, hbuild, rfl⟩ := h
  rw [aliveAfter_append, hbuild.aliveAfter_eq, Option.bind_some, add_left_comm,
    swirl.aliveAfter_deletions]
  rfl

/-- Where there were no objects before, none are deleted. -/
theorem ensures_init {buffer : SourceBuffer} (hbuffer : sourceBuffer swirl.shaders = .ok buffer)
    (hfresh : swirl.objects = none) :
    Ensures (init files swirl) fun trace next =>
      SwirlBuildTrace files swirl.shaders trace next.objects := by
  refine (ensures_initAnew hbuffer).mono ?_
  rintro _ next ⟨front, hbuild, rfl⟩
  rw [hfresh]
  change SwirlBuildTrace files swirl.shaders (front ++ []) next.objects
  rwa [List.append_nil]

theorem custody_release (objects? : Option SwirlObjects) :
    Custody (objects?.elim 0 SwirlObjects.owned) (release objects?) fun _ => 0 := by
  cases objects? with
  | none => exact custody_done rfl
  | some objects =>
    refine custody_delete_bind rfl rfl (fun _ => rfl) fun _ => ?_
    exact custody_delete rfl rfl fun _ => rfl

theorem custody_deinit (swirl : Swirl) : Custody swirl.owned swirl.deinit fun _ => 0 :=
  (custody_release swirl.objects).bind fun _ => custody_done rfl

theorem custody_render (view viewProjection : Mat4) (swirl : Swirl) :
    Custody swirl.owned (swirl.render view viewProjection) fun _ => swirl.owned := by
  obtain ⟨shaders, count, boxSize, spriteSize, time, objects⟩ := swirl
  cases objects with
  | none => exact custody_done rfl
  | some objects =>
    refine custody_call_bind rfl (by simp [GraphicsCall.named, owned, SwirlObjects.owned])
      fun _ => ?_
    refine (custody_setMat4 _ _ _).bind fun _ => (custody_setMat4 _ _ _).bind fun _ => ?_
    refine (custody_setSingle _ _ _).bind fun _ => (custody_setSingle _ _ _).bind fun _ => ?_
    refine (custody_setSingle _ _ _).bind fun _ => ?_
    refine custody_call_bind rfl (by simp [GraphicsCall.named, owned, SwirlObjects.owned])
      fun _ => ?_
    refine custody_plain_bind rfl rfl fun _ => custody_plain_bind rfl rfl fun _ => ?_
    exact custody_plain rfl rfl

theorem quiet_release (objects? : Option SwirlObjects) : Quiet (release objects?) := by
  cases objects? with
  | none => exact quiet_done ()
  | some objects => exact (quiet_graphics _).bind fun _ => quiet_graphics _

theorem quiet_build (files : Files) (shaders : ShaderConfig) : Quiet (build files shaders) := by
  have hdisabled (reason : String) : Quiet (disabled reason) :=
    (quiet_log _ _).bind fun _ => quiet_done _
  refine (quiet_ofExcept _).bind fun buffer => ?_
  refine (quiet_buildProgram files _ _ _).bind fun ⟨_, result⟩ => ?_
  cases result with
  | error error => exact hdisabled _
  | ok built =>
    refine quiet_log_when ((quiet_graphics _).bind fun answer => ?_)
    cases answer with
    | error reason =>
      exact (hdisabled _).bind fun _ => (quiet_graphics _).bind fun _ => quiet_done _
    | ok array => exact (quiet_resolve _ _).bind fun _ => quiet_done _

theorem quiet_init (files : Files) (swirl : Swirl) : Quiet (init files swirl) :=
  (quiet_build files _).bind fun _ => (quiet_release _).bind fun _ =>
    (quiet_log _ _).bind fun _ => quiet_done _

theorem quiet_deinit (swirl : Swirl) : Quiet swirl.deinit :=
  (quiet_release _).bind fun _ => quiet_done _

theorem quiet_render (view viewProjection : Mat4) (swirl : Swirl) :
    Quiet (swirl.render view viewProjection) := by
  obtain ⟨shaders, count, boxSize, spriteSize, time, objects⟩ := swirl
  cases objects with
  | none => exact quiet_done ()
  | some objects =>
    refine (quiet_graphics _).bind fun _ => ?_
    refine (quiet_setMat4 _ _ _).bind fun _ => (quiet_setMat4 _ _ _).bind fun _ => ?_
    refine (quiet_setSingle _ _ _).bind fun _ => (quiet_setSingle _ _ _).bind fun _ => ?_
    refine (quiet_setSingle _ _ _).bind fun _ => (quiet_graphics _).bind fun _ => ?_
    exact (quiet_graphics _).bind fun _ => (quiet_graphics _).bind fun _ => quiet_graphics _

end Swirl

end Shaderbox
