import Shaderbox.Proofs.BuildTrace

/-!
# Builds leave build traces

While the cap on sizes leaves room for one more byte, a build of a program always comes to a result,
and what it does to the device is one of the traces of a build.
-/

namespace Shaderbox

open Interaction

variable {files : Files} {config : ShaderConfig}

/-- Compiling stages behind others compiles all of them, or up to the first refused shader, behind
which all shaders made so far are deleted. -/
theorem ensures_compileStages (hsize : config.maxSourceSize < sizeMax)
    (stages : List (Stage × Path)) (compiled : CompiledStages) (buffer : SourceBuffer) :
    Ensures (compileStages files config stages compiled buffer) fun trace step =>
      ∃ expanded, expandStages files config stages buffer = .ok expanded ∧
        ((∃ made : List CompiledStage, made.map CompiledStage.expanded = expanded ∧
            trace = made.flatMap CompiledStage.trace ∧
            step.result = .ok ⟨compiled.shaders ++ made.map CompiledStage.handle,
              compiled.findings ++ made.flatMap CompiledStage.findings⟩) ∨
          ∃ (made : List CompiledStage) (refused : ExpandedStage) (rest : List ExpandedStage)
              (reason : String),
            made.map CompiledStage.expanded ++ refused :: rest = expanded ∧
            trace = made.flatMap CompiledStage.trace ++
              ⟨.createShader refused.stage, .error reason⟩ ::
                deletions ((compiled.shaders ++ made.map CompiledStage.handle).map
                  ShaderHandle.id) ∧
            step.result = .error ⟨.shader, reason⟩) := by
  induction stages generalizing compiled buffer with
  | nil => exact ensures_done ⟨[], rfl, .inl ⟨[], rfl, rfl, by simp⟩⟩
  | cons first rest ih =>
    obtain ⟨stage, name⟩ := first
    obtain ⟨filled, expansion, hexpand, hcons⟩ :=
      expandStages_cons files hsize stage name rest buffer
    apply ensures_graphics_bind
    intro answer
    cases answer with
    | error reason =>
      obtain ⟨expanded, hexpanded⟩ := expandStages_ok files hsize rest filled
      apply (ensures_releaseShaders compiled.shaders).bind
      rintro _ - rfl
      refine ensures_done ⟨_, hcons expanded hexpanded, .inr ⟨[], _, _, reason, rfl, ?_, rfl⟩⟩
      simp
    | ok id =>
      have hcompile : Ensures (compileShader files config ⟨id, stage⟩ name buffer) _ :=
        ensures_compileShader hexpand
      change Ensures (((compileShader files config ⟨id, stage⟩ name buffer).onAbort _).bind _) _
      rw [onAbort_eq_self hcompile.neverAborts]
      apply hcompile.bind
      rintro _ _ ⟨failure, rfl, rfl⟩
      refine (ih _ _).mono ?_
      rintro others step ⟨expanded, hexpanded, hstep⟩
      let head : CompiledStage :=
        ⟨⟨stage, name, filled.text, expansion.report.findings⟩, id, failure⟩
      refine ⟨_, hcons expanded hexpanded, ?_⟩
      rcases hstep with ⟨made, rfl, rfl, hresult⟩ | ⟨made, refused, rest, reason, rfl, rfl, hresult⟩
      · refine .inl ⟨head :: made, rfl, by simp [head, CompiledStage.trace], ?_⟩
        simpa [head, CompiledStage.handle, CompiledStage.findings] using hresult
      · refine .inr ⟨head :: made, refused, rest, reason, rfl, ?_, hresult⟩
        simp [head, CompiledStage.handle, CompiledStage.trace]

theorem ensures_linkProgram (program : ProgramHandle) :
    Ensures (linkProgram program) fun trace findings =>
      ∃ failure, trace = ⟨.linkProgram program.id, ()⟩ :: linkCheck program.id failure ∧
        findings = (failure.map fun log => .linkFailed program.label (cutLog log)).toList := by
  apply ensures_graphics_bind
  intro _
  apply (ensures_checkLink _ _).bind
  rintro _ _ ⟨failure, rfl, rfl⟩
  exact ensures_done ⟨failure, by rw [List.append_nil], rfl⟩

/-- Compiled shaders become a program that is linked and validated, or the program is refused and
the shaders are deleted. -/
theorem ensures_finishProgram (label : String) (compiled : CompiledStages) :
    Ensures (finishProgram label compiled) fun trace result =>
      (∃ finished : FinishedProgram,
          trace = finished.trace (compiled.shaders.map ShaderHandle.id) ∧
          result = .ok ⟨⟨finished.program, label⟩,
            compiled.findings ++ finished.findings label⟩) ∨
        ∃ reason, trace = ⟨.createProgram, .error reason⟩ ::
            deletions (compiled.shaders.map ShaderHandle.id) ∧
          result = .error ⟨.program, reason⟩ := by
  apply ensures_graphics_bind
  intro answer
  cases answer with
  | error reason =>
    apply (ensures_releaseShaders compiled.shaders).bind
    rintro _ - rfl
    exact ensures_done (.inr ⟨reason, by rw [List.append_nil], rfl⟩)
  | ok id =>
    apply (ensures_attachShaders ⟨id, label⟩ compiled.shaders).bind
    rintro _ - rfl
    apply (ensures_linkProgram ⟨id, label⟩).bind
    rintro _ _ ⟨failure, rfl, rfl⟩
    apply (ensures_checkValidate _ _).bind
    rintro _ _ ⟨valid, rfl, rfl⟩
    refine ensures_log_when (ensures_done (.inl ⟨⟨id, failure, valid⟩, ?_, ?_⟩))
    · simp [FinishedProgram.trace]
    · cases valid <;> simp [FinishedProgram.findings]

/-- The shaders behind the handles of compiled stages. -/
theorem map_id_handle (compiled : List CompiledStage) :
    (compiled.map CompiledStage.handle).map ShaderHandle.id =
      compiled.map CompiledStage.shader :=
  List.map_map

/-- While the cap on sizes leaves room for one more byte, all stages of a program are expanded and
what the build does to the device is the trace of a build of the expanded stages. -/
theorem ensures_buildProgram (hsize : config.maxSourceSize < sizeMax) (sources : ProgramSources)
    (buffer : SourceBuffer) :
    Ensures (buildProgram files config sources buffer) fun trace step =>
      ∃ expanded, expandStages files config sources.stages buffer = .ok expanded ∧
        BuildTrace sources.label expanded trace step.result := by
  apply (ensures_compileStages hsize sources.stages ⟨[], []⟩ buffer).bind
  rintro _ ⟨left, compiled⟩ ⟨expanded, hexpanded, hcompiled⟩
  rcases hcompiled with ⟨made, hmade, rfl, rfl⟩ | ⟨made, refused, rest, reason, hmade, rfl, rfl⟩
  · refine (ensures_finishProgram sources.label _).bind ?_
    rintro _ _ (⟨finished, rfl, rfl⟩ | ⟨reason, rfl, rfl⟩)
    · have hbuilt : BuildTrace sources.label expanded _ _ := .built made finished hmade
      refine ensures_done ⟨expanded, hexpanded, ?_⟩
      simpa only [List.nil_append, List.append_nil, map_id_handle] using hbuilt
    · have hrefused : BuildTrace sources.label expanded _ _ := .programRefused made reason hmade
      refine ensures_done ⟨expanded, hexpanded, ?_⟩
      simpa only [List.nil_append, List.append_nil, map_id_handle] using hrefused
  · have hrefused : BuildTrace sources.label expanded _ _ :=
      .shaderRefused made refused rest reason hmade
    refine ensures_done ⟨expanded, hexpanded, ?_⟩
    simpa only [List.nil_append, List.append_nil, map_id_handle] using hrefused

end Shaderbox
