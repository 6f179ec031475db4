import Shaderbox.Proofs.DeviceTrace
import Shaderbox.Proofs.Ownership
import Shaderbox.Proofs.WalkRules
import Shaderbox.Shader.Program

/-!
# The trace of a build

What building a program does to the device is written out for every way in which the device may
answer: each stage with the shader that was made of it and the log of a failure to compile, then
the program with what came of linking and validating it, or the refusal at which the build ended.

Failures to compile, link or validate change nothing but the queries behind them. A refusal ends the
build, and all that is left to do then is to delete the shaders made so far, in order.
-/

namespace Shaderbox

open Interaction

/-- A stage with the source that its file is expanded to and what was found on the way. -/
structure ExpandedStage where
  stage : Stage
  name : Path
  source : String
  findings : List Finding

/-- Expand stages in order, each into the buffer behind the one before. -/
def expandStages (files : Files) (config : ShaderConfig) :
    List (Stage × Path) → SourceBuffer → Except Abort (List ExpandedStage)
  | [], _ => .ok []
  | (stage, name) :: rest, buffer => do
    let (buffer, expansion) ← expandInto files config (config.path name) buffer
    let others ← expandStages files config rest buffer
    return ⟨stage, name, buffer.text, expansion.report.findings⟩ :: others

/-- A sequence that does not abort does not abort anywhere. -/
theorem exists_ok_of_bind {α β : Type} {first : Except Abort α} {next : α → Except Abort β}
    {result : β} (h : (first >>= next) = .ok result) :
    ∃ between, first = .ok between ∧ next between = .ok result := by
  cases first with
  | error cause => cases h
  | ok between => exact ⟨between, rfl, h⟩

/-- The stages are kept with the names of their files. -/
theorem expandStages_map {files : Files} {config : ShaderConfig} {stages : List (Stage × Path)}
    {buffer : SourceBuffer} {expanded : List ExpandedStage}
    (h : expandStages files config stages buffer = .ok expanded) :
    expanded.map (fun first => (first.stage, first.name)) = stages := by
  induction stages generalizing buffer expanded with
  | nil =>
    obtain rfl := Except.ok.inj h
    rfl
  | cons first rest ih =>
    obtain ⟨⟨filled, expansion⟩, -, hrest⟩ := exists_ok_of_bind h
    obtain ⟨others, hothers, hcons⟩ := exists_ok_of_bind hrest
    obtain rfl := Except.ok.inj hcons
    rw [List.map_cons, ih hothers]

/-- A stage with the shader that was made of it and, if it did not compile, the device's log. -/
structure CompiledStage where
  expanded : ExpandedStage
  shader : ShaderId
  failure : Option String

/-- The check whether a shader compiled. Where it did not, the device is asked for its log. -/
def compileCheck (shader : ShaderId) : Option String → List (Exchange Graphics)
  | none => [⟨.compileStatus shader, true⟩]
  | some log => [⟨.compileStatus shader, false⟩, ⟨.shaderLog shader, log⟩]

/-- The check whether a program linked. Where it did not, the device is asked for its log. -/
def linkCheck (program : ProgramId) : Option String → List (Exchange Graphics)
  | none => [⟨.linkStatus program, true⟩]
  | some log => [⟨.linkStatus program, false⟩, ⟨.programLog program, log⟩]

namespace CompiledStage

/-- The handle of the shader. -/
def handle (compiled : CompiledStage) : ShaderHandle :=
  ⟨compiled.shader, compiled.expanded.stage⟩

/-- What is done to the device to make the shader and compile it. -/
def trace (compiled : CompiledStage) : List (Exchange Graphics) :=
  ⟨.createShader compiled.expanded.stage, .ok compiled.shader⟩ ::
    ⟨.shaderSource compiled.shader compiled.expanded.source, ()⟩ ::
    ⟨.compileShader compiled.shader, ()⟩ :: compileCheck compiled.shader compiled.failure

/-- What is found about the stage. -/
def findings (compiled : CompiledStage) : List Finding :=
  compiled.expanded.findings ++
    (compiled.failure.map fun log =>
      .compileFailed compiled.expanded.stage compiled.expanded.name.text (cutLog log)).toList

end CompiledStage

/-- Deleting shaders in order. -/
def deletions (shaders : List ShaderId) : List (Exchange Graphics) :=
  shaders.map fun shader => ⟨.deleteShader shader, ()⟩

theorem deletions_cons (shader : ShaderId) (rest : List ShaderId) :
    deletions (shader :: rest) = ⟨.deleteShader shader, ()⟩ :: deletions rest := rfl

/-- Attaching shaders to a program in order, each deleted right away. -/
def attachments (program : ProgramId) (shaders : List ShaderId) : List (Exchange Graphics) :=
  shaders.flatMap fun shader =>
    [⟨.attachShader program shader, ()⟩, ⟨.deleteShader shader, ()⟩]

theorem attachments_cons (program : ProgramId) (shader : ShaderId) (rest : List ShaderId) :
    attachments program (shader :: rest) =
      ⟨.attachShader program shader, ()⟩ :: ⟨.deleteShader shader, ()⟩ ::
        attachments program rest := rfl

/-- A program with what came of linking and validating it. -/
structure FinishedProgram where
  program : ProgramId
  linkFailure : Option String
  valid : Bool

namespace FinishedProgram

/-- What is done to the device to make the program of shaders, link and validate it. -/
def trace (finished : FinishedProgram) (shaders : List ShaderId) : List (Exchange Graphics) :=
  ⟨.createProgram, .ok finished.program⟩ :: attachments finished.program shaders ++
    ⟨.linkProgram finished.program, ()⟩ :: linkCheck finished.program finished.linkFailure ++
    [⟨.validateProgram finished.program, ()⟩, ⟨.validateStatus finished.program, finished.valid⟩]

/-- What is found about the program. -/
def findings (label : String) (finished : FinishedProgram) : List Finding :=
  (finished.linkFailure.map fun log => .linkFailed label (cutLog log)).toList ++
    if finished.valid then [] else [.validateFailed label]

end FinishedProgram

/-- The traces of a build of expanded stages, and what it then comes to. -/
inductive BuildTrace (label : String) (stages : List ExpandedStage) :
    List (Exchange Graphics) → Except CreateError ProgramBuild → Prop where
  /-- All objects could be created. -/
  | built (compiled : List CompiledStage) (finished : FinishedProgram)
      (all : compiled.map CompiledStage.expanded = stages) :
      BuildTrace label stages
        (compiled.flatMap CompiledStage.trace ++ finished.trace (compiled.map CompiledStage.shader))
        (.ok ⟨⟨finished.program, label⟩,
          compiled.flatMap CompiledStage.findings ++ finished.findings label⟩)
  /-- The shader of a stage was refused. -/
  | shaderRefused (compiled : List CompiledStage) (refused : ExpandedStage)
      (rest : List ExpandedStage) (reason : String)
      (some : compiled.map CompiledStage.expanded ++ refused :: rest = stages) :
      BuildTrace label stages
        (compiled.flatMap CompiledStage.trace ++ ⟨.createShader refused.stage, .error reason⟩ ::
          deletions (compiled.map CompiledStage.shader))
        (.error ⟨.shader, reason⟩)
  /-- All stages were compiled, and the program was refused. -/
  | programRefused (compiled : List CompiledStage) (reason : String)
      (all : compiled.map CompiledStage.expanded = stages) :
      BuildTrace label stages
        (compiled.flatMap CompiledStage.trace ++ ⟨.createProgram, .error reason⟩ ::
          deletions (compiled.map CompiledStage.shader))
        (.error ⟨.program, reason⟩)

section Steps

theorem ensures_checkCompile (shader : ShaderId) (stage : Stage) (name : String) :
    Ensures (checkCompile shader stage name) fun trace finding? =>
      ∃ failure, trace = compileCheck shader failure ∧
        finding? = failure.map fun log => .compileFailed stage name (cutLog log) := by
  apply ensures_graphics_bind
  intro compiled
  cases compiled with
  | true => exact ensures_done ⟨none, rfl, rfl⟩
  | false =>
    apply ensures_graphics_bind
    intro log
    apply ensures_log_bind
    exact ensures_done ⟨some log, rfl, rfl⟩

theorem ensures_checkLink (program : ProgramId) (name : String) :
    Ensures (checkLink program name) fun trace finding? =>
      ∃ failure, trace = linkCheck program failure ∧
        finding? = failure.map fun log => .linkFailed name (cutLog log) := by
  apply ensures_graphics_bind
  intro linked
  cases linked with
  | true => exact ensures_done ⟨none, rfl, rfl⟩
  | false =>
    apply ensures_graphics_bind
    intro log
    apply ensures_log_bind
    exact ensures_done ⟨some log, rfl, rfl⟩

theorem ensures_checkValidate (program : ProgramId) (name : String) :
    Ensures (checkValidate program name) fun trace finding? =>
      ∃ valid, trace = [⟨.validateProgram program, ()⟩, ⟨.validateStatus program, valid⟩] ∧
        finding? = if valid then none else some (.validateFailed name) := by
  apply ensures_graphics_bind
  intro _
  apply ensures_graphics_bind
  intro valid
  cases valid with
  | true => exact ensures_done ⟨true, rfl, rfl⟩
  | false => exact ensures_log_bind (ensures_done ⟨false, rfl, rfl⟩)

theorem ensures_releaseShaders (shaders : List ShaderHandle) :
    Ensures (releaseShaders shaders) fun trace _ =>
      trace = deletions (shaders.map ShaderHandle.id) := by
  induction shaders with
  | nil => exact ensures_done rfl
  | cons shader rest ih =>
    apply ensures_graphics_bind
    intro _
    refine ih.mono ?_
    rintro _ - rfl
    rfl

theorem ensures_attachShaders (program : ProgramHandle) (shaders : List ShaderHandle) :
    Ensures (attachShaders program shaders) fun trace _ =>
      trace = attachments program.id (shaders.map ShaderHandle.id) := by
  induction shaders with
  | nil => exact ensures_done rfl
  | cons shader rest ih =>
    apply ensures_graphics_bind
    intro _
    apply ensures_graphics_bind
    intro _
    refine ih.mono ?_
    rintro _ - rfl
    rfl

end Steps

section Build

variable (files : Files) {config : ShaderConfig} (hsize : config.maxSourceSize < sizeMax)

include hsize

/-- While the cap on sizes leaves room for one more byte, a file can be expanded into any buffer. -/
theorem expandInto_ok (path : Path) (buffer : SourceBuffer) :
    ∃ result, expandInto files config path buffer = .ok result := by
  unfold expandInto expand
  rw [expandBounded_eq hsize]
  exact ⟨_, rfl⟩

/-- The first stage is expanded into the buffer, and the others go on with what that leaves. -/
theorem expandStages_cons (stage : Stage) (name : Path) (rest : List (Stage × Path))
    (buffer : SourceBuffer) :
    ∃ filled expansion, expandInto files config (config.path name) buffer =
        .ok (filled, expansion) ∧
      ∀ others, expandStages files config rest filled = .ok others →
        expandStages files config ((stage, name) :: rest) buffer =
          .ok (⟨stage, name, filled.text, expansion.report.findings⟩ :: others) := by
  obtain ⟨⟨filled, expansion⟩, hexpand⟩ := expandInto_ok files hsize (config.path name) buffer
  refine ⟨filled, expansion, hexpand, fun others hothers => ?_⟩
  rw [expandStages, hexpand]
  change (expandStages files config rest filled >>= fun others => _) = _
  rw [hothers]
  rfl

/-- While the cap on sizes leaves room for one more byte, all stages can be expanded. -/
theorem expandStages_ok (stages : List (Stage × Path)) (buffer : SourceBuffer) :
    ∃ expanded, expandStages files config stages buffer = .ok expanded := by
  induction stages generalizing buffer with
  | nil => exact ⟨[], rfl⟩
  | cons first rest ih =>
    obtain ⟨filled, expansion, -, hcons⟩ :=
      expandStages_cons files hsize first.1 first.2 rest buffer
    obtain ⟨others, hothers⟩ := ih filled
    exact ⟨_, hcons others hothers⟩

variable {files}

omit hsize in
theorem ensures_compileShader {shader : ShaderHandle} {name : Path} {buffer filled : SourceBuffer}
    {expansion : Expansion}
    (hexpand : expandInto files config (config.path name) buffer = .ok (filled, expansion)) :
    Ensures (compileShader files config shader name buffer) fun trace result =>
      ∃ failure, trace = ⟨.shaderSource shader.id filled.text, ()⟩ ::
          ⟨.compileShader shader.id, ()⟩ :: compileCheck shader.id failure ∧
        result = (filled, expansion.report.findings ++
          (failure.map fun log => .compileFailed shader.stage name.text (cutLog log)).toList) := by
  unfold compileShader
  rw [hexpand]
  apply ensures_logAll_bind
  apply ensures_graphics_bind
  intro _
  apply ensures_graphics_bind
  intro _
  apply (ensures_checkCompile _ _ _).bind
  rintro _ _ ⟨failure, rfl, rfl⟩
  exact ensures_done ⟨failure, by rw [List.append_nil], rfl⟩

end Build

end Shaderbox
