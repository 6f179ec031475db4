import Shaderbox.Proofs.BuildObjects
import Shaderbox.Proofs.BuildSuccess
import Shaderbox.Scene.Programs

/-!
# The trace of a build of the scene's programs

Two builds follow each other, and behind them the uniforms are looked up. When the second one is
refused an object, the program of the first is deleted again. Either both programs are left in the
end or nothing is, and both are good exactly when nothing failed in the trace.
-/

namespace Shaderbox

open Interaction

section Uniforms

/-- Looking up the uniforms of a program, as the table then has them. -/
def UniformTable.lookups (table : UniformTable) (program : ProgramId) :
    List (Exchange Graphics) :=
  table.entries.map fun entry => ⟨.uniformLocation program entry.binding.name, entry.location⟩

theorem UniformTable.lookups_cons (entry : UniformEntry) (rest : List UniformEntry)
    (program : ProgramId) :
    (UniformTable.mk (entry :: rest)).lookups program =
      ⟨.uniformLocation program entry.binding.name, entry.location⟩ ::
        (UniformTable.mk rest).lookups program := rfl

theorem ensures_findUniform (program : ProgramHandle) (name : String) :
    Ensures (findUniform program name) fun trace location =>
      trace = [⟨.uniformLocation program.id name, location⟩] :=
  ensures_graphics_bind fun _ => ensures_log_when (ensures_done rfl)

theorem ensures_findUniforms (program : ProgramHandle) (bindings : List UniformBinding) :
    Ensures (findUniforms program bindings) fun trace entries =>
      entries.map UniformEntry.binding = bindings ∧
        trace = (UniformTable.mk entries).lookups program.id := by
  induction bindings with
  | nil => exact ensures_done ⟨rfl, rfl⟩
  | cons binding rest ih =>
    apply (ensures_findUniform program binding.name).bind
    rintro _ location rfl
    apply ih.bind
    rintro _ entries ⟨rfl, rfl⟩
    exact ensures_done ⟨rfl, by rw [List.append_nil]; rfl⟩

theorem ensures_resolve (program : ProgramHandle) (bindings : List UniformBinding) :
    Ensures (UniformTable.resolve program bindings) fun trace table =>
      table.entries.map UniformEntry.binding = bindings ∧ trace = table.lookups program.id := by
  apply (ensures_findUniforms program bindings).bind
  rintro _ entries ⟨rfl, rfl⟩
  exact ensures_done ⟨rfl, by rw [List.append_nil]⟩

end Uniforms

/-- The programs of a scene as objects of the device. -/
def ScenePrograms.objects (programs : ScenePrograms) : Multiset DeviceObject :=
  {.program programs.basic.id, .program programs.grid.id}

/-- Deleting the programs of a scene. -/
def ScenePrograms.deletions (programs : ScenePrograms) : List (Exchange Graphics) :=
  [⟨.deleteProgram programs.basic.id, ()⟩, ⟨.deleteProgram programs.grid.id, ()⟩]

/-- Whether a trace is one of building a program from the files of its stages: the vertex stage,
and behind it the geometry and the fragment stage if there are any. -/
def BuildsFrom (files : Files) (config : ShaderConfig) (sources : ProgramSources)
    (buffer : SourceBuffer) (trace : List (Exchange Graphics))
    (result : Except CreateError ProgramBuild) : Prop :=
  ∃ stages, expandStages files config
      ((.vertex, sources.vertex) :: (sources.geometry.toList.map (.geometry, ·) ++
        sources.fragment.toList.map (.fragment, ·))) buffer = .ok stages ∧
    BuildTrace sources.label stages trace result

theorem ensures_buildsFrom {files : Files} {config : ShaderConfig}
    (hsize : config.maxSourceSize < sizeMax) (sources : ProgramSources) (buffer : SourceBuffer) :
    Ensures (buildProgram files config sources buffer) fun trace step =>
      BuildsFrom files config sources buffer trace step.result := by
  unfold BuildsFrom
  rw [← sources.stages_eq]
  exact ensures_buildProgram hsize sources buffer

/-- Creating a shader for each stage in order and compiling the source of the stage, when no shader
is refused and all of them compile. -/
def goodCompilations (made : List (ExpandedStage × ShaderId)) : List (Exchange Graphics) :=
  made.flatMap fun (stage, shader) =>
    [⟨.createShader stage.stage, .ok shader⟩, ⟨.shaderSource shader stage.source, ()⟩,
      ⟨.compileShader shader, ()⟩, ⟨.compileStatus shader, true⟩]

/-- Whether a trace is that of building a program when everything goes well. A shader is made of
each stage and compiles, and the program is made of the shaders, links and validates. -/
def BuiltWell (files : Files) (config : ShaderConfig) (sources : ProgramSources)
    (buffer : SourceBuffer) (program : ProgramId) (trace : List (Exchange Graphics)) : Prop :=
  ∃ made : List (ExpandedStage × ShaderId),
    expandStages files config
      ((.vertex, sources.vertex) :: (sources.geometry.toList.map (.geometry, ·) ++
        sources.fragment.toList.map (.fragment, ·))) buffer = .ok (made.map Prod.fst) ∧
    trace = goodCompilations made ++
      ⟨.createProgram, .ok program⟩ :: attachments program (made.map Prod.snd) ++
        [⟨.linkProgram program, ()⟩, ⟨.linkStatus program, true⟩, ⟨.validateProgram program, ()⟩,
          ⟨.validateStatus program, true⟩]

/-- Whether a trace is that of building the scene's programs when everything goes well with both,
one behind the other, and of looking their uniforms up then. -/
def ScenePrograms.BuiltWell (files : Files) (config : SceneConfig) (programs : ScenePrograms)
    (trace : List (Exchange Graphics)) : Prop :=
  ∃ (first second : SourceBuffer) (basicTrace gridTrace : List (Exchange Graphics)),
    Shaderbox.BuiltWell files config.shaders config.basic first programs.basic.id basicTrace ∧
    Shaderbox.BuiltWell files config.shaders config.grid second programs.grid.id gridTrace ∧
    trace = basicTrace ++ gridTrace ++ programs.basicUniforms.lookups programs.basic.id ++
      programs.gridUniforms.lookups programs.grid.id

/-- The traces of a build of the scene's programs, and what it then comes to. -/
inductive SceneBuildTrace (files : Files) (config : SceneConfig) :
    List (Exchange Graphics) → Except CreateError SceneProgramsBuild → Prop where
  /-- Both programs were built, and their uniforms looked up. -/
  | built {first second : SourceBuffer} {basic grid : ProgramBuild}
      {basicTrace gridTrace : List (Exchange Graphics)} (basicTable gridTable : UniformTable)
      (basicBuilt : BuildsFrom files config.shaders config.basic first basicTrace (.ok basic))
      (gridBuilt : BuildsFrom files config.shaders config.grid second gridTrace (.ok grid))
      (basicLookedUp : basicTable.entries.map UniformEntry.binding = basicUniforms)
      (gridLookedUp : gridTable.entries.map UniformEntry.binding = gridUniforms) :
      SceneBuildTrace files config
        (basicTrace ++ gridTrace ++ basicTable.lookups basic.program.id ++
          gridTable.lookups grid.program.id)
        (.ok ⟨⟨basic.program, basicTable, grid.program, gridTable⟩,
          basic.findings ++ grid.findings⟩)
  /-- The first build was refused an object. -/
  | basicRefused {first : SourceBuffer} {error : CreateError} {trace : List (Exchange Graphics)}
      (refused : BuildsFrom files config.shaders config.basic first trace (.error error)) :
      SceneBuildTrace files config trace (.error error)
  /-- The second build was refused an object, and the first program is deleted. -/
  | gridRefused {first second : SourceBuffer} {basic : ProgramBuild} {error : CreateError}
      {basicTrace gridTrace : List (Exchange Graphics)}
      (basicBuilt : BuildsFrom files config.shaders config.basic first basicTrace (.ok basic))
      (refused : BuildsFrom files config.shaders config.grid second gridTrace (.error error)) :
      SceneBuildTrace files config
        (basicTrace ++ gridTrace ++ [⟨.deleteProgram basic.program.id, ()⟩]) (.error error)

section Build

variable {files : Files} {config : SceneConfig}

/-- A configuration for whose sources there is a buffer leaves room for one more byte. -/
theorem maxSourceSize_lt_of_sourceBuffer {shaders : ShaderConfig} {buffer : SourceBuffer}
    (h : sourceBuffer shaders = .ok buffer) : shaders.maxSourceSize < sizeMax := by
  unfold sourceBuffer SourceBuffer.withCapacity at h
  split at h
  · have hmax : capacityMax < sizeMax := by decide
    omega
  · contradiction

/-- When there is a buffer for the sources, a build of the scene's programs comes to a result, and
what it does to the device is one of its traces. -/
theorem ensures_buildScenePrograms {buffer : SourceBuffer}
    (hbuffer : sourceBuffer config.shaders = .ok buffer) :
    Ensures (ScenePrograms.build files config) (SceneBuildTrace files config) := by
  have hsize := maxSourceSize_lt_of_sourceBuffer hbuffer
  unfold ScenePrograms.build
  rw [hbuffer]
  apply (ensures_buildsFrom hsize config.basic buffer).bind
  rintro basicTrace ⟨left, basic⟩ hbasic
  cases basic with
  | error error =>
    refine ensures_done ?_
    rw [List.append_nil]
    exact .basicRefused hbasic
  | ok basic =>
    apply (ensures_buildsFrom hsize config.grid left).bind
    rintro gridTrace ⟨_, grid⟩ hgrid
    cases grid with
    | error error =>
      apply ensures_graphics_bind
      intro _
      refine ensures_done ?_
      rw [← List.append_assoc]
      exact .gridRefused hbasic hgrid
    | ok grid =>
      apply (ensures_resolve basic.program basicUniforms).bind
      rintro _ basicTable ⟨hbasicTable, rfl⟩
      apply (ensures_resolve grid.program gridUniforms).bind
      rintro _ gridTable ⟨hgridTable, rfl⟩
      refine ensures_done ?_
      rw [List.append_nil, ← List.append_assoc, ← List.append_assoc]
      exact .built basicTable gridTable hbasic hgrid hbasicTable hgridTable

end Build

section Consequences

variable {files : Files} {config : SceneConfig} {trace : List (Exchange Graphics)}
  {alive : Multiset DeviceObject}

/-- Looking up uniforms of a living program changes nothing. -/
theorem aliveAfter_lookups {program : ProgramId} (hprogram : .program program ∈ alive)
    (table : UniformTable) : aliveAfter alive (table.lookups program) = some alive := by
  obtain ⟨entries⟩ := table
  induction entries with
  | nil => rfl
  | cons entry rest ih =>
    rw [UniformTable.lookups_cons, aliveAfter_cons (by simpa [GraphicsCall.named])]
    simpa [GraphicsCall.deleted, Exchange.created] using ih

theorem BuildsFrom.aliveAfter_eq {shaders : ShaderConfig} {sources : ProgramSources}
    {buffer : SourceBuffer} {result : Except CreateError ProgramBuild}
    (h : BuildsFrom files shaders sources buffer trace result) :
    aliveAfter alive trace = some (leftBy ProgramBuild.objects result + alive) := by
  obtain ⟨stages, -, hbuild⟩ := h
  exact hbuild.aliveAfter_eq

/-- A build of the scene's programs can be accounted for, and leaves both programs or nothing. -/
theorem SceneBuildTrace.aliveAfter_eq {result : Except CreateError SceneProgramsBuild}
    (h : SceneBuildTrace files config trace result) :
    aliveAfter alive trace =
      some (leftBy (fun built => built.programs.objects) result + alive) := by
  cases h with
  | built basicTable gridTable hbasic hgrid =>
    rw [aliveAfter_append, aliveAfter_append, aliveAfter_append, hbasic.aliveAfter_eq,
      Option.bind_some, hgrid.aliveAfter_eq, Option.bind_some,
      aliveAfter_lookups (by simp [leftBy, ProgramBuild.objects]), Option.bind_some,
      aliveAfter_lookups (by simp [leftBy, ProgramBuild.objects])]
    simp [leftBy, ProgramBuild.objects, ScenePrograms.objects]
  | basicRefused hrefused => exact hrefused.aliveAfter_eq
  | gridRefused hbasic hrefused =>
    rw [aliveAfter_append, aliveAfter_append, hbasic.aliveAfter_eq, Option.bind_some,
      hrefused.aliveAfter_eq, Option.bind_some,
      aliveAfter_cons (by simp [leftBy, ProgramBuild.objects, GraphicsCall.named])]
    simp [leftBy, ProgramBuild.objects, GraphicsCall.deleted, Exchange.created, aliveAfter]

theorem nothingFails_lookups (table : UniformTable) (program : ProgramId) :
    nothingFails (table.lookups program) = true := by
  simp [nothingFails, UniformTable.lookups, Exchange.fails]

theorem BuildsFrom.nothingFails_eq {shaders : ShaderConfig} {sources : ProgramSources}
    {buffer : SourceBuffer} {result : Except CreateError ProgramBuild}
    (h : BuildsFrom files shaders sources buffer trace result) :
    nothingFails trace = goodBuild ProgramBuild.succeeded result := by
  obtain ⟨stages, hstages, hbuild⟩ := h
  exact hbuild.nothingFails_eq (buildSucceeded_expandStages hstages)

/-- A build of the scene's programs gives them back and counts as successful exactly when nothing
failed in its trace. -/
theorem SceneBuildTrace.nothingFails_eq {result : Except CreateError SceneProgramsBuild}
    (h : SceneBuildTrace files config trace result) :
    nothingFails trace = goodBuild SceneProgramsBuild.succeeded result := by
  cases h with
  | built basicTable gridTable hbasic hgrid =>
    simp only [nothingFails_append, nothingFails_lookups, hbasic.nothingFails_eq,
      hgrid.nothingFails_eq, Bool.and_true]
    exact (buildSucceeded_append _ _).symm
  | basicRefused hrefused => exact hrefused.nothingFails_eq
  | gridRefused hbasic hrefused =>
    simp [nothingFails_append, hrefused.nothingFails_eq, goodBuild]

/-- Stages that all compiled were compiled well. -/
theorem flatMap_trace_of_compiled {compiled : List CompiledStage}
    (h : ∀ stage ∈ compiled, stage.failure = none) :
    compiled.flatMap CompiledStage.trace =
      goodCompilations (compiled.map CompiledStage.made) := by
  rw [goodCompilations, List.flatMap_map]
  refine List.flatMap_congr fun stage hstage => ?_
  rw [CompiledStage.trace, h stage hstage]
  rfl

/-- In a build that counts as successful everything goes well. -/
theorem BuildsFrom.builtWell {shaders : ShaderConfig} {sources : ProgramSources}
    {buffer : SourceBuffer} {build : ProgramBuild}
    (h : BuildsFrom files shaders sources buffer trace (.ok build))
    (hsucceeded : build.succeeded = true) :
    BuiltWell files shaders sources buffer build.program.id trace := by
  obtain ⟨stages, hstages, hbuild⟩ := h
  have hgood := buildSucceeded_expandStages hstages
  cases hbuild with
  | built compiled finished all =>
    rw [← all, List.forall_mem_map] at hgood
    rw [ProgramBuild.succeeded, buildSucceeded_append, Bool.and_eq_true,
      buildSucceeded_compiledStages hgood, buildSucceeded_finishedProgram] at hsucceeded
    obtain ⟨program, failure, valid⟩ := finished
    obtain ⟨hcompiled, rfl, rfl⟩ := hsucceeded
    refine ⟨compiled.map CompiledStage.made, ?_, ?_⟩
    · rw [hstages, ← all, List.map_map]
      rfl
    · rw [flatMap_trace_of_compiled hcompiled, List.map_map, FinishedProgram.trace,
        List.append_assoc, List.append_assoc]
      rfl

/-- In a build of the scene's programs that counts as successful everything goes well with both, one
behind the other. -/
theorem SceneBuildTrace.builtWell {built : SceneProgramsBuild}
    (h : SceneBuildTrace files config trace (.ok built)) (hsucceeded : built.succeeded = true) :
    built.programs.BuiltWell files config trace := by
  cases h with
  | built basicTable gridTable hbasic hgrid =>
    rw [SceneProgramsBuild.succeeded, buildSucceeded_append, Bool.and_eq_true] at hsucceeded
    exact ⟨_, _, _, _, hbasic.builtWell hsucceeded.1, hgrid.builtWell hsucceeded.2, rfl⟩

end Consequences

end Shaderbox
