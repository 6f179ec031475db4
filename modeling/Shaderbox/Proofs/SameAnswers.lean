import Shaderbox.Proofs.SceneBuild
import Shaderbox.Proofs.StageSources

/-!
# Builds that are told the same

What a build of the scene's programs finds, and where it finds uniforms, depends on the files and on
what the device tells: statuses, logs and locations. It does not depend on the names of objects. The
answers of two builds are read side by side. Each piece of a build asks for more only after a status
that says so, so answers of which one list begins like the other are the same piece by piece.
-/

namespace Shaderbox

open Interaction

/-- What the device tells when it is asked. -/
inductive Told where
  | status (value : Bool)
  | log (text : String)
  | location (location : Option UniformLocation)
deriving DecidableEq

/-- What is told in an exchange, if anything. -/
def Exchange.told? : Exchange Graphics → Option Told
  | ⟨.compileStatus _, status⟩ => some (.status status)
  | ⟨.linkStatus _, status⟩ => some (.status status)
  | ⟨.validateStatus _, status⟩ => some (.status status)
  | ⟨.shaderLog _, log⟩ => some (.log log)
  | ⟨.programLog _, log⟩ => some (.log log)
  | ⟨.uniformLocation .., location⟩ => some (.location location)
  | _ => none

/-- All statuses, logs and locations that are told in a trace, in order. -/
def told (trace : List (Exchange Graphics)) : List Told :=
  trace.filterMap Exchange.told?

theorem told_append (front back : List (Exchange Graphics)) :
    told (front ++ back) = told front ++ told back :=
  List.filterMap_append

section Pieces

variable {rest more : List Told}

/-- What is told about a compiled stage. -/
def CompiledStage.answers (compiled : CompiledStage) : List Told :=
  match compiled.failure with
  | none => [.status true]
  | some log => [.status false, .log log]

theorem told_compiledStage (compiled : CompiledStage) :
    told compiled.trace = compiled.answers := by
  obtain ⟨expanded, shader, failure⟩ := compiled
  cases failure <;> rfl

/-- Answers about the same stage that begin alike are the same. -/
theorem CompiledStage.answers_prefix {first second : CompiledStage}
    (hexpanded : first.expanded = second.expanded)
    (h : first.answers ++ rest <+: second.answers ++ more) :
    first.findings = second.findings ∧ rest <+: more := by
  obtain ⟨expanded, shader, failure⟩ := first
  obtain ⟨_, other, outcome⟩ := second
  obtain rfl := hexpanded
  cases failure <;> cases outcome <;> simp [answers, List.cons_prefix_cons] at h
  · exact ⟨rfl, h⟩
  · obtain ⟨rfl, h⟩ := h
    exact ⟨rfl, h⟩

/-- Answers about the same stages that begin alike are the same. -/
theorem told_compiledStages_prefix {first second : List CompiledStage}
    (hexpanded : first.map CompiledStage.expanded = second.map CompiledStage.expanded)
    (h : told (first.flatMap CompiledStage.trace) ++ rest <+:
      told (second.flatMap CompiledStage.trace) ++ more) :
    first.flatMap CompiledStage.findings = second.flatMap CompiledStage.findings ∧
      rest <+: more := by
  induction first generalizing second with
  | nil =>
    obtain rfl := List.map_eq_nil_iff.mp hexpanded.symm
    exact ⟨rfl, h⟩
  | cons stage stages ih =>
    obtain ⟨other, others, rfl, hother, hothers⟩ := List.map_eq_cons_iff.mp hexpanded.symm
    rw [List.flatMap_cons, List.flatMap_cons, told_append, told_append, told_compiledStage,
      told_compiledStage, List.append_assoc, List.append_assoc] at h
    obtain ⟨hfindings, hrest⟩ := CompiledStage.answers_prefix hother.symm h
    obtain ⟨hall, hmore⟩ := ih hothers.symm hrest
    exact ⟨by rw [List.flatMap_cons, List.flatMap_cons, hfindings, hall], hmore⟩

theorem told_attachments (program : ProgramId) (shaders : List ShaderId) :
    told (attachments program shaders) = [] := by
  induction shaders with
  | nil => rfl
  | cons shader rest ih => exact ih

/-- What is told about a program that was linked and validated. -/
def FinishedProgram.answers (finished : FinishedProgram) : List Told :=
  match finished.linkFailure with
  | none => [.status true, .status finished.valid]
  | some log => [.status false, .log log, .status finished.valid]

theorem told_finishedProgram (finished : FinishedProgram) (shaders : List ShaderId) :
    told (finished.trace shaders) = finished.answers := by
  obtain ⟨program, failure, valid⟩ := finished
  have hattached : told (⟨.createProgram, .ok program⟩ :: attachments program shaders) = [] :=
    told_attachments program shaders
  rw [FinishedProgram.trace, told_append, told_append, hattached]
  cases failure <;> rfl

/-- Answers about programs that begin alike are the same. -/
theorem FinishedProgram.answers_prefix {first second : FinishedProgram} (label : String)
    (h : first.answers ++ rest <+: second.answers ++ more) :
    first.findings label = second.findings label ∧ rest <+: more := by
  obtain ⟨program, failure, valid⟩ := first
  obtain ⟨other, outcome, passed⟩ := second
  cases failure <;> cases outcome <;> simp [answers, List.cons_prefix_cons] at h
  · obtain ⟨rfl, h⟩ := h
    exact ⟨rfl, h⟩
  · obtain ⟨rfl, rfl, h⟩ := h
    exact ⟨rfl, h⟩

theorem told_lookups (table : UniformTable) (program : ProgramId) :
    told (table.lookups program) = table.entries.map fun entry => .location entry.location := by
  obtain ⟨entries⟩ := table
  induction entries with
  | nil => rfl
  | cons entry rest ih => exact congrArg (_ :: ·) ih

/-- Tables of the same uniforms whose locations begin alike are the same. -/
theorem told_lookups_prefix {first second : UniformTable} {program other : ProgramId}
    (hbindings : first.entries.map UniformEntry.binding = second.entries.map UniformEntry.binding)
    (h : told (first.lookups program) ++ rest <+: told (second.lookups other) ++ more) :
    first = second ∧ rest <+: more := by
  rw [told_lookups, told_lookups] at h
  obtain ⟨entries⟩ := first
  obtain ⟨others⟩ := second
  dsimp only at h hbindings
  induction entries generalizing others with
  | nil =>
    obtain rfl := List.map_eq_nil_iff.mp hbindings.symm
    exact ⟨rfl, h⟩
  | cons entry entries ih =>
    obtain ⟨twin, twins, rfl, hbinding, htwins⟩ := List.map_eq_cons_iff.mp hbindings.symm
    obtain ⟨hlocation, hrest⟩ := List.cons_prefix_cons.mp h
    have hentry : entry = twin :=
      congrArg₂ UniformEntry.mk hbinding.symm (Told.location.inj hlocation)
    obtain ⟨htable, hmore⟩ := ih twins htwins.symm hrest
    exact ⟨by rw [hentry, UniformTable.mk.inj htable], hmore⟩

/-- Builds of the same stages that are told the same find the same. -/
theorem BuildTrace.findings_eq {label : String} {stages : List ExpandedStage}
    {first second : List (Exchange Graphics)} {build twin : ProgramBuild}
    (hfirst : BuildTrace label stages first (.ok build))
    (hsecond : BuildTrace label stages second (.ok twin))
    (h : told first ++ rest <+: told second ++ more) :
    build.findings = twin.findings ∧ build.program.label = twin.program.label ∧ rest <+: more := by
  cases hfirst with
  | built made finished hmade =>
    cases hsecond with
    | built others outcome hothers =>
      rw [told_append, told_append, List.append_assoc, List.append_assoc] at h
      obtain ⟨hstages, hprograms⟩ := told_compiledStages_prefix (hmade.trans hothers.symm) h
      rw [told_finishedProgram, told_finishedProgram] at hprograms
      obtain ⟨hfinished, hmore⟩ := FinishedProgram.answers_prefix label hprograms
      exact ⟨by rw [hstages, hfinished], rfl, hmore⟩

end Pieces

section Scenes

variable {files : Files} {config : SceneConfig}

/-- A build of a program comes to a result and keeps the capacity of its buffer, and each stage is
expanded as if it were the only one. -/
theorem ensures_buildProgram_stages {shaders : ShaderConfig}
    (hsize : shaders.maxSourceSize < sizeMax) (sources : ProgramSources) (buffer : SourceBuffer) :
    Ensures (buildProgram files shaders sources buffer) fun trace step =>
      step.buffer.capacity = buffer.capacity ∧
        BuildTrace sources.label (sources.stages.map (expandedStage files shaders buffer.capacity))
          trace step.result := by
  intro exchanges outcome hyields
  obtain ⟨step, rfl, expanded, hexpanded, htrace⟩ :=
    ensures_buildProgram hsize sources buffer _ _ hyields
  rw [expandStages_eq files hsize] at hexpanded
  obtain rfl := Except.ok.inj hexpanded
  exact ⟨step, rfl, returns_buildProgram sources buffer _ _ hyields, htrace⟩

/-- A build of both programs, in a buffer of some capacity, with the lookups of their uniforms. -/
structure BuildsScene (files : Files) (config : SceneConfig) (capacity : Nat)
    (trace : List (Exchange Graphics)) (built : SceneProgramsBuild) : Prop where
  bindings : built.programs.basicUniforms.entries.map UniformEntry.binding = basicUniforms ∧
    built.programs.gridUniforms.entries.map UniformEntry.binding = gridUniforms
  parts : ∃ basic grid basicTrace gridTrace,
    BuildTrace config.basic.label
      (config.basic.stages.map (expandedStage files config.shaders capacity)) basicTrace
        (.ok basic) ∧
    BuildTrace config.grid.label
      (config.grid.stages.map (expandedStage files config.shaders capacity)) gridTrace
        (.ok grid) ∧
    built.programs.basic = basic.program ∧ built.programs.grid = grid.program ∧
    built.findings = basic.findings ++ grid.findings ∧
    trace = basicTrace ++ gridTrace ++ built.programs.basicUniforms.lookups basic.program.id ++
      built.programs.gridUniforms.lookups grid.program.id

/-- A build of the scene's programs that gives them back built both, from the same stages each
time. -/
theorem ensures_buildsScene {buffer : SourceBuffer}
    (hbuffer : sourceBuffer config.shaders = .ok buffer) :
    Ensures (ScenePrograms.build files config) fun trace result =>
      ∀ built, result = .ok built → BuildsScene files config buffer.capacity trace built := by
  have hsize := maxSourceSize_lt_of_sourceBuffer hbuffer
  unfold ScenePrograms.build
  rw [hbuffer]
  apply (ensures_buildProgram_stages hsize config.basic buffer).bind
  rintro basicTrace ⟨left, basic⟩ ⟨hcapacity, hbasic⟩
  cases basic with
  | error error => exact ensures_done fun built hbuilt => by contradiction
  | ok basic =>
    apply (ensures_buildProgram_stages hsize config.grid left).bind
    rintro gridTrace ⟨_, grid⟩ ⟨-, hgrid⟩
    rw [hcapacity] at hgrid
    cases grid with
    | error error =>
      exact ensures_graphics_bind fun _ => ensures_done fun built hbuilt => by contradiction
    | ok grid =>
      apply (ensures_resolve basic.program basicUniforms).bind
      rintro _ basicTable ⟨hbasicTable, rfl⟩
      apply (ensures_resolve grid.program gridUniforms).bind
      rintro _ gridTable ⟨hgridTable, rfl⟩
      refine ensures_done fun built hbuilt => ?_
      obtain rfl := Except.ok.inj hbuilt
      refine ⟨⟨hbasicTable, hgridTable⟩, basic, grid, basicTrace, gridTrace, hbasic, hgrid, rfl,
        rfl, rfl, ?_⟩
      rw [List.append_nil, ← List.append_assoc, ← List.append_assoc]

/-- Programs that are the same but for the names of the objects. -/
structure ScenePrograms.SameButNames (programs others : ScenePrograms) : Prop where
  basicLabel : programs.basic.label = others.basic.label
  basicUniforms : programs.basicUniforms = others.basicUniforms
  gridLabel : programs.grid.label = others.grid.label
  gridUniforms : programs.gridUniforms = others.gridUniforms

/-- Builds of the scene's programs from the same files that are told the same find the same and come
to programs that are the same but for the names. -/
theorem BuildsScene.same {capacity : Nat} {first second : List (Exchange Graphics)}
    {built twin : SceneProgramsBuild} {rest more : List Told}
    (hfirst : BuildsScene files config capacity first built)
    (hsecond : BuildsScene files config capacity second twin)
    (h : told first ++ rest <+: told second ++ more) :
    built.findings = twin.findings ∧ built.programs.SameButNames twin.programs := by
  obtain ⟨⟨hbasicTable, hgridTable⟩, basic, grid, basicTrace, gridTrace, hbasic, hgrid,
    hbasicProgram, hgridProgram, hfindings, rfl⟩ := hfirst
  obtain ⟨⟨hbasicTable', hgridTable'⟩, basic', grid', basicTrace', gridTrace', hbasic', hgrid',
    hbasicProgram', hgridProgram', hfindings', rfl⟩ := hsecond
  simp only [told_append, List.append_assoc] at h
  obtain ⟨hbasicFindings, hbasicLabel, h⟩ := hbasic.findings_eq hbasic' h
  obtain ⟨hgridFindings, hgridLabel, h⟩ := hgrid.findings_eq hgrid' h
  obtain ⟨hbasicUniforms, h⟩ := told_lookups_prefix (hbasicTable.trans hbasicTable'.symm) h
  obtain ⟨hgridUniforms, -⟩ := told_lookups_prefix (hgridTable.trans hgridTable'.symm) h
  refine ⟨by rw [hfindings, hfindings', hbasicFindings, hgridFindings], ?_, hbasicUniforms, ?_,
    hgridUniforms⟩
  · rw [hbasicProgram, hbasicProgram', hbasicLabel]
  · rw [hgridProgram, hgridProgram', hgridLabel]

end Scenes

end Shaderbox
