import Shaderbox.Proofs.BuildSuccess
import Shaderbox.Proofs.StageSources

/-!
# What the report of a build says

A report says what was found when each stage was expanded, and what the device answered when it was
asked about each shader and about the program, in the order in which that happened. None of it stops
the build. Only what the device answered decides whether the build succeeded.
-/

namespace Shaderbox

open Interaction

section Logs

/-- The beginning of a log that is kept has as many characters as there are, up to the limit. -/
theorem cutLog_prefix (log : String) :
    (cutLog log).toList <+: log.toList ∧
      (cutLog log).toList.length = min infoLogLimit log.toList.length := by
  rw [cutLog, String.toList_ofList]
  exact ⟨List.take_prefix _ _, List.length_take⟩

end Logs

/-- The build that a report is about: the stages in order, each with its source and what was found
in it as in any buffer of this capacity, the answers of the device, and the program. -/
structure BuiltFrom (files : Files) (config : ShaderConfig) (sources : ProgramSources)
    (capacity : Nat) (trace : List (Exchange Graphics)) (made : List CompiledStage)
    (finished : FinishedProgram) : Prop where
  stages : made.map (fun compiled => (compiled.expanded.stage, compiled.expanded.name)) =
    (.vertex, sources.vertex) :: (sources.geometry.toList.map (.geometry, ·) ++
      sources.fragment.toList.map (.fragment, ·))
  expanded : ∀ compiled ∈ made, ∀ buffer : SourceBuffer, buffer.capacity = capacity →
    ∃ filled expansion,
      expandInto files config (config.path compiled.expanded.name) buffer =
          .ok (filled, expansion) ∧
        compiled.expanded.source = filled.text ∧
        compiled.expanded.findings = expansion.report.findings
  trace : trace = made.flatMap CompiledStage.trace ++
    finished.trace (made.map CompiledStage.shader)

/-- A report and what it is to say about a build. -/
structure ReportsExactly (sources : ProgramSources) (made : List CompiledStage)
    (finished : FinishedProgram) (build : ProgramBuild) : Prop where
  program : build.program.id = finished.program
  label : build.program.label =
    "+".intercalate ((sources.vertex :: (sources.geometry.toList ++ sources.fragment.toList)).map
      fun path => path.fileName?.getD path.text)
  findings : build.findings =
    (made.flatMap fun compiled => compiled.expanded.findings ++
      (compiled.failure.map fun log => .compileFailed compiled.expanded.stage
        compiled.expanded.name.text (cutLog log)).toList) ++
    (finished.linkFailure.map fun log => .linkFailed build.program.label (cutLog log)).toList ++
    if finished.valid then [] else [.validateFailed build.program.label]
  succeeded : build.succeeded = true ↔
    (∀ compiled ∈ made, compiled.failure = none) ∧ finished.linkFailure = none ∧
      finished.valid = true

section Reports

variable {files : Files} {config : ShaderConfig} {sources : ProgramSources} {buffer : SourceBuffer}

/-- What a stage is expanded to is what its file is expanded to in any buffer of this capacity. -/
theorem exists_expandInto_of_mem (hsize : config.maxSourceSize < sizeMax)
    {stages : List (Stage × Path)} {capacity : Nat} {stage : ExpandedStage}
    (h : stage ∈ stages.map (expandedStage files config capacity)) (buffer : SourceBuffer)
    (hcapacity : buffer.capacity = capacity) :
    ∃ filled expansion,
      expandInto files config (config.path stage.name) buffer = .ok (filled, expansion) ∧
        stage.source = filled.text ∧ stage.findings = expansion.report.findings := by
  obtain ⟨first, -, rfl⟩ := List.mem_map.mp h
  subst hcapacity
  exact ⟨_, _, expandInto_eq files hsize _ buffer, rfl, rfl⟩

/-- The report of a build says what was found in each stage, whether it compiled, and whether the
program linked and validated, in this order and nothing else. -/
theorem buildProgram_reports_exactly (hsize : config.maxSourceSize < sizeMax)
    {exchanges : List (Exchange (Effects Graphics))} {left : SourceBuffer} {build : ProgramBuild}
    (h : Yields (buildProgram files config sources buffer) exchanges (.ok ⟨left, .ok build⟩)) :
    (∃ made finished,
      BuiltFrom files config sources buffer.capacity (deviceTrace exchanges) made finished ∧
        ReportsExactly sources made finished build) ∧
      ∀ log, (cutLog log).toList <+: log.toList ∧
        (cutLog log).toList.length = min 1024 log.toList.length := by
  refine ⟨?_, cutLog_prefix⟩
  obtain ⟨expanded, hexpanded, htrace⟩ := (ensures_buildProgram hsize sources buffer).of_ok h
  have hstages := expandStages_map hexpanded
  have hgood := buildSucceeded_expandStages hexpanded
  rw [expandStages_eq files hsize] at hexpanded
  obtain rfl := Except.ok.inj hexpanded
  generalize htraced : deviceTrace exchanges = trace at htrace
  generalize hresult : (Except.ok build : Except CreateError ProgramBuild) = result at htrace
  cases htrace with
  | built made finished all =>
    obtain rfl := Except.ok.inj hresult
    have hmem : ∀ compiled ∈ made, compiled.expanded ∈
        sources.stages.map (expandedStage files config buffer.capacity) := by
      intro compiled hcompiled
      rw [← all]
      exact List.mem_map_of_mem hcompiled
    have hgoodMade : ∀ compiled ∈ made, buildSucceeded compiled.expanded.findings = true :=
      fun compiled hcompiled => hgood _ (hmem compiled hcompiled)
    refine ⟨made, finished, ⟨?_, ?_, rfl⟩, ⟨rfl, sources.label_eq, ?_, ?_⟩⟩
    · rw [← sources.stages_eq, ← hstages, ← all, List.map_map]
      rfl
    · intro compiled hcompiled
      exact exists_expandInto_of_mem hsize (hmem compiled hcompiled)
    · exact (List.append_assoc _ _ _).symm
    · rw [ProgramBuild.succeeded, buildSucceeded_append, Bool.and_eq_true,
        buildSucceeded_compiledStages hgoodMade, buildSucceeded_finishedProgram]
  | shaderRefused => contradiction
  | programRefused => contradiction

end Reports

/-- A log of some number of characters, each of two bytes. -/
def accentedLog (count : Nat) : String := String.ofList (List.replicate count 'é')

theorem length_accentedLog (count : Nat) : (accentedLog count).toList.length = count := by
  rw [accentedLog, String.toList_ofList, List.length_replicate]

/-- One stage includes a file and does not compile. The other is missing, which is reported and does
not count. The program neither links nor validates, and of a long log the beginning is kept. -/
theorem buildProgram_reports_exactly_failures :
    ({} : ShaderConfig).maxSourceSize < sizeMax ∧
      ∃ exchanges left build,
        Yields (buildProgram accentedFiles {} ⟨⟨"whole"⟩, none, some ⟨"lost"⟩⟩ ⟨"", 64⟩) exchanges
          (.ok ⟨left, .ok build⟩) ∧
        (∃ made finished,
          BuiltFrom accentedFiles {} ⟨⟨"whole"⟩, none, some ⟨"lost"⟩⟩ 64 (deviceTrace exchanges)
              made finished ∧
            ReportsExactly ⟨⟨"whole"⟩, none, some ⟨"lost"⟩⟩ made finished build) ∧
        build.findings =
          [.compileFailed .vertex "whole" "compile log", .missingFile ⟨"shaders/lost"⟩,
            .linkFailed "whole+lost" "link log", .validateFailed "whole+lost"] ∧
        (cutLog (accentedLog 1030)).toList.length = 1024 := by
  have hroom : ({} : ShaderConfig).maxSourceSize < sizeMax := by decide
  let program := buildProgram accentedFiles {} ⟨⟨"whole"⟩, none, some ⟨"lost"⟩⟩ ⟨"", 64⟩
  let script : DeviceScript :=
    { compileFailMarker := some "€", linkSucceeds := false, validateSucceeds := false }
  let world : World := { device := { script } }
  obtain ⟨exchanges, hyields⟩ := yields_run (World.answerOther World.answerGraphics) program world
  have hrun : (program.run (World.answerOther World.answerGraphics) world).1.toOption.bind
      (fun step => step.result.toOption.map ProgramBuild.findings) =
        some [.compileFailed .vertex "whole" "compile log", .missingFile ⟨"shaders/lost"⟩,
          .linkFailed "whole+lost" "link log", .validateFailed "whole+lost"] := by
    decide +kernel
  generalize (program.run (World.answerOther World.answerGraphics) world).1 = outcome at hyields hrun
  rcases outcome with cause | ⟨left, error | build⟩
  · contradiction
  · contradiction
  · obtain ⟨hreport, hlogs⟩ := buildProgram_reports_exactly hroom hyields
    refine ⟨hroom, exchanges, left, build, hyields, hreport, Option.some.inj hrun, ?_⟩
    rw [(hlogs _).2, length_accentedLog]
    rfl

end Shaderbox
