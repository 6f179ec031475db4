import Shaderbox.Proofs.SceneBuild
import Shaderbox.Proofs.SceneHistory
import Shaderbox.Simulation.World

/-!
# Reloading is all or nothing

A reload that succeeds puts the new programs in the place of the old ones and deletes the old ones,
and nothing else changes. One that does not succeed deletes all that it created and leaves the scene
as it was, but for the findings, and those have no bearing on what the scene does from then on.
-/

namespace Shaderbox

open Interaction

section DeletedPrograms

/-- The program that an exchange deletes, if any. -/
def Exchange.deletedProgram? : Exchange Graphics → Option ProgramId
  | ⟨.deleteProgram program, _⟩ => some program
  | _ => none

/-- The programs that a trace deletes, in order. -/
def deletedPrograms (trace : List (Exchange Graphics)) : List ProgramId :=
  trace.filterMap Exchange.deletedProgram?

theorem deletedPrograms_append (front back : List (Exchange Graphics)) :
    deletedPrograms (front ++ back) = deletedPrograms front ++ deletedPrograms back :=
  List.filterMap_append

theorem deletedPrograms_compiledStages (compiled : List CompiledStage) :
    deletedPrograms (compiled.flatMap CompiledStage.trace) = [] := by
  induction compiled with
  | nil => rfl
  | cons first rest ih =>
    obtain ⟨expanded, shader, failure⟩ := first
    rw [List.flatMap_cons, deletedPrograms_append, ih, List.append_nil]
    cases failure with
    | none => rfl
    | some log => rfl

theorem deletedPrograms_attachments (program : ProgramId) (shaders : List ShaderId) :
    deletedPrograms (attachments program shaders) = [] := by
  induction shaders with
  | nil => rfl
  | cons shader rest ih => exact ih

theorem deletedPrograms_lookups (table : UniformTable) (program : ProgramId) :
    deletedPrograms (table.lookups program) = [] := by
  obtain ⟨entries⟩ := table
  induction entries with
  | nil => rfl
  | cons entry rest ih => exact ih

/-- A build that gives back a program deletes none. -/
theorem BuildsFrom.deletedPrograms_eq {files : Files} {shaders : ShaderConfig}
    {sources : ProgramSources} {buffer : SourceBuffer} {trace : List (Exchange Graphics)}
    {build : ProgramBuild} (h : BuildsFrom files shaders sources buffer trace (.ok build)) :
    deletedPrograms trace = [] := by
  obtain ⟨stages, -, hbuild⟩ := h
  cases hbuild with
  | built compiled finished =>
    obtain ⟨program, failure, valid⟩ := finished
    rw [deletedPrograms_append, deletedPrograms_compiledStages, List.nil_append,
      FinishedProgram.trace, deletedPrograms_append, deletedPrograms_append]
    have hattached : deletedPrograms (⟨.createProgram, .ok program⟩ ::
        attachments program (compiled.map CompiledStage.shader)) = [] :=
      deletedPrograms_attachments _ _
    rw [hattached]
    cases failure with
    | none => rfl
    | some log => rfl

/-- A build that gives back the scene's programs deletes none. -/
theorem SceneBuildTrace.deletedPrograms_eq {files : Files} {config : SceneConfig}
    {trace : List (Exchange Graphics)} {built : SceneProgramsBuild}
    (h : SceneBuildTrace files config trace (.ok built)) : deletedPrograms trace = [] := by
  cases h with
  | built basicTable gridTable hbasic hgrid =>
    simp only [deletedPrograms_append, hbasic.deletedPrograms_eq, hgrid.deletedPrograms_eq,
      deletedPrograms_lookups, List.append_nil]

end DeletedPrograms

variable {σ : Type} {files : Files} {scene : Scene σ} {objects : SceneObjects}

/-- What a reload of a live scene may do to the device, and what it then comes to. -/
inductive ReloadTrace (files : Files) (scene : Scene σ) (objects : SceneObjects) :
    List (Exchange Graphics) → Except CreateError Bool × Scene σ → Prop where
  /-- The new programs are good, and the old ones are deleted. -/
  | replaced {built : SceneProgramsBuild} {trace : List (Exchange Graphics)}
      (build : SceneBuildTrace files scene.config trace (.ok built))
      (succeeded : built.succeeded = true) :
      ReloadTrace files scene objects (trace ++ objects.programs.deletions)
        (.ok true,
          { scene with
            objects := some { objects with programs := built.programs }
            findings := built.findings })
  /-- Something is wrong with the new programs, and they are deleted. -/
  | kept {built : SceneProgramsBuild} {trace : List (Exchange Graphics)}
      (build : SceneBuildTrace files scene.config trace (.ok built))
      (failed : built.succeeded = false) :
      ReloadTrace files scene objects (trace ++ built.programs.deletions)
        (.ok false, { scene with findings := built.findings })
  /-- An object was refused. -/
  | refused {error : CreateError} {trace : List (Exchange Graphics)}
      (build : SceneBuildTrace files scene.config trace (.error error)) :
      ReloadTrace files scene objects trace (.error error, scene)

/-- When there is a buffer for the sources, a reload of a live scene comes to a result, and what it
does to the device is one of its traces. -/
theorem ensures_reload {buffer : SourceBuffer} (hobjects : scene.objects = some objects)
    (hbuffer : sourceBuffer scene.config.shaders = .ok buffer) :
    Ensures (scene.reload files) (ReloadTrace files scene objects) := by
  obtain ⟨config, _, particles, findings⟩ := scene
  obtain rfl := hobjects
  apply (ensures_buildScenePrograms hbuffer).bind
  intro trace result hbuild
  cases result with
  | error error =>
    refine ensures_done ?_
    rw [List.append_nil]
    exact .refused hbuild
  | ok built =>
    dsimp only
    split
    · rename_i hsucceeded
      apply ensures_graphics_bind
      intro _
      apply ensures_graphics_bind
      intro _
      exact ensures_log_bind (ensures_done (.replaced hbuild hsucceeded))
    · rename_i hfailed
      apply ensures_log_bind
      apply ensures_graphics_bind
      intro _
      apply ensures_graphics_bind
      intro _
      exact ensures_done (.kept hbuild (Bool.eq_false_of_not_eq_true hfailed))

section Consequences

variable {trace : List (Exchange Graphics)} {result : Except CreateError Bool} {next : Scene σ}
  {alive : Multiset DeviceObject}

/-- Deleting the living programs of a scene leaves the other objects. -/
theorem ScenePrograms.aliveAfter_deletions (programs : ScenePrograms) :
    aliveAfter (programs.objects + alive) programs.deletions = some alive := by
  rw [ScenePrograms.deletions,
    aliveAfter_cons (by simp [GraphicsCall.named, ScenePrograms.objects]),
    aliveAfter_cons (by
      simp [GraphicsCall.named, GraphicsCall.deleted, Exchange.created, ScenePrograms.objects])]
  simp [GraphicsCall.deleted, Exchange.created, ScenePrograms.objects, aliveAfter]

theorem ScenePrograms.nothingFails_deletions (programs : ScenePrograms) :
    nothingFails programs.deletions = true := rfl

/-- A reload succeeds exactly when nothing fails on the device. -/
theorem ReloadTrace.ok_true_iff (h : ReloadTrace files scene objects trace (result, next)) :
    result = .ok true ↔ nothingFails trace = true := by
  cases h with
  | replaced hbuild hsucceeded =>
    rw [nothingFails_append, hbuild.nothingFails_eq, goodBuild, hsucceeded]
    exact iff_of_true rfl (ScenePrograms.nothingFails_deletions _)
  | kept hbuild hfailed =>
    rw [nothingFails_append, hbuild.nothingFails_eq, goodBuild, hfailed]
    simp
  | refused hbuild =>
    rw [hbuild.nothingFails_eq]
    simp [goodBuild]

/-- The new programs are in the place of the old ones, everything went well when they were built,
and of all programs exactly the old ones were deleted. -/
structure TakesOver (files : Files) (scene next : Scene σ) (objects : SceneObjects)
    (built : SceneProgramsBuild) (trace : List (Exchange Graphics)) : Prop where
  replaced : next =
    { scene with
      objects := some { objects with programs := built.programs }
      findings := built.findings }
  build : ∃ front, SceneBuildTrace files scene.config front (.ok built) ∧
    built.programs.BuiltWell files scene.config front ∧
    trace = front ++ objects.programs.deletions
  deleted : deletedPrograms trace = [objects.programs.basic.id, objects.programs.grid.id]
  accounted : aliveAfter objects.programs.objects trace = some built.programs.objects

/-- All that was created was deleted exactly once, the scene is as it was but for the findings, and
whatever is done with it next goes as if nothing had happened. -/
structure LeavesNoMark (scene next : Scene σ) (trace : List (Exchange Graphics)) : Prop where
  same : next.withoutFindings = scene.withoutFindings
  accounted : aliveAfter 0 trace = some 0
  deleted : deletedIn trace = createdIn trace
  future : ∀ (simulation : ParticleSimulation σ) (steps : List SceneStep)
    (ending : Except Abort (Scene σ)),
    next.MayRun simulation steps ending ↔ scene.MayRun simulation steps ending

theorem ReloadTrace.takesOver (h : ReloadTrace files scene objects trace (result, next))
    (hresult : result = .ok true) : ∃ built, TakesOver files scene next objects built trace := by
  cases h with
  | @replaced built front hbuild hsucceeded =>
    refine ⟨built, rfl, ⟨front, hbuild, hbuild.builtWell hsucceeded, rfl⟩, ?_, ?_⟩
    · rw [deletedPrograms_append, hbuild.deletedPrograms_eq, List.nil_append]
      rfl
    · rw [aliveAfter_append, hbuild.aliveAfter_eq, Option.bind_some, leftBy, add_comm,
        ScenePrograms.aliveAfter_deletions]
  | kept => contradiction
  | refused => contradiction

theorem ReloadTrace.leavesNoMark (h : ReloadTrace files scene objects trace (result, next))
    (hresult : result ≠ .ok true) : LeavesNoMark scene next trace := by
  have hsame : next.withoutFindings = scene.withoutFindings := by
    cases h with
    | replaced => contradiction
    | kept => rfl
    | refused => rfl
  have haccounted : aliveAfter 0 trace = some 0 := by
    cases h with
    | replaced => contradiction
    | kept hbuild =>
      rw [aliveAfter_append, hbuild.aliveAfter_eq, Option.bind_some, leftBy,
        ScenePrograms.aliveAfter_deletions]
    | refused hbuild =>
      rw [hbuild.aliveAfter_eq, leftBy, zero_add]
  have hdeleted := final_add_deletedIn haccounted
  rw [zero_add, zero_add] at hdeleted
  exact ⟨hsame, haccounted, hdeleted, mayRun_iff_of_same hsame⟩

/-- When the new build came to a result, its findings are those of the scene. -/
theorem ReloadTrace.findings_of_ok (h : ReloadTrace files scene objects trace (result, next))
    {swapped : Bool} (hresult : result = .ok swapped) :
    ∃ built front, SceneBuildTrace files scene.config front (.ok built) ∧ front <+: trace ∧
      next.findings = built.findings := by
  cases h with
  | replaced hbuild => exact ⟨_, _, hbuild, List.prefix_append _ _, rfl⟩
  | kept hbuild => exact ⟨_, _, hbuild, List.prefix_append _ _, rfl⟩
  | refused => contradiction

/-- When the new build was refused an object, there was nothing but this build, and the findings are
left as they were. -/
theorem ReloadTrace.findings_of_error (h : ReloadTrace files scene objects trace (result, next))
    {error : CreateError} (hresult : result = .error error) :
    SceneBuildTrace files scene.config trace (.error error) ∧ next.findings = scene.findings := by
  cases h with
  | replaced => contradiction
  | kept => contradiction
  | refused hbuild =>
    obtain rfl := Except.error.inj hresult
    exact ⟨hbuild, rfl⟩

end Consequences

/-- A reload of a scene that owns nothing does nothing. A reload of a live scene, whatever the files
hold and whatever the device answers, succeeds exactly when no object is refused and every stage
compiles and both programs link and validate. Then the new programs and their uniforms take over,
built call by call as it should be of all stages that are named, and otherwise the attempt leaves no
mark but the findings. Those are the findings of the new build when it came to a result, and else
they are left as they were. -/
theorem reload_all_or_nothing {exchanges : List (Exchange (Effects Graphics))}
    {outcome : Except Abort (Except CreateError Bool × Scene σ)}
    (hbuffer : scene.isLive = true → ∃ buffer, sourceBuffer scene.config.shaders = .ok buffer)
    (h : Yields (scene.reload files) exchanges outcome) :
    (scene.objects = none → exchanges = [] ∧ outcome = .ok (.ok false, scene)) ∧
      ∀ objects, scene.objects = some objects →
        ∃ result next, outcome = .ok (result, next) ∧
          (result = .ok true ↔ ∀ exchange ∈ deviceTrace exchanges, exchange.fails = false) ∧
          (result = .ok true →
            ∃ built, TakesOver files scene next objects built (deviceTrace exchanges)) ∧
          (result ≠ .ok true → LeavesNoMark scene next (deviceTrace exchanges)) ∧
          (∀ swapped, result = .ok swapped → ∃ built front,
            SceneBuildTrace files scene.config front (.ok built) ∧
            front <+: deviceTrace exchanges ∧ next.findings = built.findings) ∧
          ∀ error, result = .error error →
            SceneBuildTrace files scene.config (deviceTrace exchanges) (.error error) ∧
            next.findings = scene.findings := by
  constructor
  · intro hobjects
    unfold Scene.reload at h
    rw [hobjects] at h
    cases h
    exact ⟨rfl, rfl⟩
  · intro objects hobjects
    have hlive : scene.isLive = true := by rw [Scene.isLive, hobjects, Option.isSome_some]
    obtain ⟨buffer, hcapacity⟩ := hbuffer hlive
    obtain ⟨⟨result, next⟩, rfl, hreload⟩ := ensures_reload hobjects hcapacity _ _ h
    refine ⟨result, next, rfl, ?_, hreload.takesOver, hreload.leavesNoMark,
      fun _ => hreload.findings_of_ok, fun _ => hreload.findings_of_error⟩
    rw [hreload.ok_true_iff, nothingFails, Bool.not_eq_true', List.any_eq_false]
    simp only [Bool.not_eq_true]

/-- A live scene with no particles. -/
def emptyScene : Scene Unit where
  config := {}
  objects := some
    { programs := ⟨⟨⟨1⟩, "basic"⟩, ⟨[]⟩, ⟨⟨2⟩, "grid"⟩, ⟨[]⟩⟩
      vertexArray := ⟨⟨3⟩⟩ }
  particles := ()
  findings := []

/-- A device that has one program left makes the first program of a vertex and a fragment shader and
refuses the second one. The shaders of both and the first program are deleted again. -/
theorem reload_refused_second_program :
    (∃ buffer, sourceBuffer emptyScene.config.shaders = .ok buffer) ∧
      ∃ exchanges next,
        Yields (emptyScene.reload namedFiles) exchanges
          (.ok (.error ⟨.program, "out of program objects"⟩, next)) ∧
        (objectCalls (deviceTrace exchanges)).map Exchange.request =
          [.createShader .vertex, .shaderSource ⟨4⟩ "shaders/basic/vs_basic.glsl",
            .compileShader ⟨4⟩, .createShader .fragment,
            .shaderSource ⟨5⟩ "shaders/basic/fs_basic.glsl", .compileShader ⟨5⟩, .createProgram,
            .attachShader ⟨6⟩ ⟨4⟩, .deleteShader ⟨4⟩, .attachShader ⟨6⟩ ⟨5⟩, .deleteShader ⟨5⟩,
            .linkProgram ⟨6⟩, .validateProgram ⟨6⟩, .createShader .vertex,
            .shaderSource ⟨7⟩ "shaders/grid/vs_grid.glsl", .compileShader ⟨7⟩,
            .createShader .fragment, .shaderSource ⟨8⟩ "shaders/grid/fs_grid.glsl",
            .compileShader ⟨8⟩, .createProgram, .deleteShader ⟨7⟩, .deleteShader ⟨8⟩,
            .deleteProgram ⟨6⟩] ∧
        LeavesNoMark emptyScene next (deviceTrace exchanges) ∧ next.findings = [] := by
  let world : World := { device := { script := { programsLeft := some 1 }, nextNumber := 4 } }
  have hbuffer : ∃ buffer, sourceBuffer emptyScene.config.shaders = .ok buffer := ⟨_, rfl⟩
  have hyields : Yields (emptyScene.reload namedFiles)
      (world.rehearse (emptyScene.reload namedFiles)) _ := World.yields_rehearse rfl
  obtain ⟨result, next, houtcome, -, -, hmark, -, hfindings⟩ :=
    (reload_all_or_nothing (fun _ => hbuffer) hyields).2 _ rfl
  have hrun : (world.perform .direct (emptyScene.reload namedFiles)).1.toOption.map Prod.fst =
      some (.error ⟨.program, "out of program objects"⟩) := by
    decide +kernel
  rw [houtcome] at hyields hrun
  obtain rfl : result = .error ⟨.program, "out of program objects"⟩ := Option.some.inj hrun
  exact ⟨hbuffer, _, next, hyields, by decide +kernel, hmark (by simp), (hfindings _ rfl).2⟩

end Shaderbox
