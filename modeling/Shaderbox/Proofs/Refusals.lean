import Shaderbox.Proofs.SceneBuild

/-!
# Refused creations in a trace

A build gives back what it is for exactly when the device granted every object that was asked for.
-/

namespace Shaderbox

/-- Whether an exchange is a creation that the device refused. -/
def Exchange.refuses : Exchange Graphics → Bool
  | ⟨.createShader _, .error _⟩ => true
  | ⟨.createProgram, .error _⟩ => true
  | ⟨.createVertexArray, .error _⟩ => true
  | _ => false

/-- Whether every object asked for in a trace was granted. -/
def grantsAll (trace : List (Exchange Graphics)) : Bool :=
  !trace.any Exchange.refuses

theorem grantsAll_append (front back : List (Exchange Graphics)) :
    grantsAll (front ++ back) = (grantsAll front && grantsAll back) := by
  simp [grantsAll, Bool.not_or]

theorem grantsAll_compiledStages (compiled : List CompiledStage) :
    grantsAll (compiled.flatMap CompiledStage.trace) = true := by
  induction compiled with
  | nil => rfl
  | cons first rest ih =>
    obtain ⟨expanded, shader, failure⟩ := first
    rw [List.flatMap_cons, grantsAll_append, ih, Bool.and_true]
    cases failure with
    | none => rfl
    | some log => rfl

theorem grantsAll_finishedProgram (finished : FinishedProgram) (shaders : List ShaderId) :
    grantsAll (finished.trace shaders) = true := by
  obtain ⟨program, failure, valid⟩ := finished
  have hattached :
      grantsAll (⟨.createProgram, .ok program⟩ :: attachments program shaders) = true := by
    simp [grantsAll, attachments, Exchange.refuses]
  rw [FinishedProgram.trace, grantsAll_append, grantsAll_append, hattached, Bool.true_and]
  cases failure with
  | none => rfl
  | some log => rfl

theorem grantsAll_lookups (table : UniformTable) (program : ProgramId) :
    grantsAll (table.lookups program) = true := by
  simp [grantsAll, UniformTable.lookups, Exchange.refuses]

/-- A build gives back a program exactly when all its objects were granted. -/
theorem BuildTrace.grantsAll_eq {label : String} {stages : List ExpandedStage}
    {trace : List (Exchange Graphics)} {result : Except CreateError ProgramBuild}
    (h : BuildTrace label stages trace result) : grantsAll trace = result.isOk := by
  cases h with
  | built compiled finished =>
    rw [grantsAll_append, grantsAll_compiledStages, grantsAll_finishedProgram]
    rfl
  | shaderRefused =>
    rw [grantsAll_append]
    exact Bool.and_false _
  | programRefused =>
    rw [grantsAll_append]
    exact Bool.and_false _

theorem BuildsFrom.grantsAll_eq {files : Files} {shaders : ShaderConfig} {sources : ProgramSources}
    {buffer : SourceBuffer} {trace : List (Exchange Graphics)}
    {result : Except CreateError ProgramBuild}
    (h : BuildsFrom files shaders sources buffer trace result) :
    grantsAll trace = result.isOk := by
  obtain ⟨stages, -, hbuild⟩ := h
  exact hbuild.grantsAll_eq

/-- A build of the scene's programs gives them back exactly when all their objects were granted. -/
theorem SceneBuildTrace.grantsAll_eq {files : Files} {config : SceneConfig}
    {trace : List (Exchange Graphics)} {result : Except CreateError SceneProgramsBuild}
    (h : SceneBuildTrace files config trace result) : grantsAll trace = result.isOk := by
  cases h with
  | built basicTable gridTable hbasic hgrid =>
    simp only [grantsAll_append, grantsAll_lookups, hbasic.grantsAll_eq, hgrid.grantsAll_eq]
    rfl
  | basicRefused hrefused => exact hrefused.grantsAll_eq
  | gridRefused hbasic hrefused =>
    simp only [grantsAll_append, hbasic.grantsAll_eq, hrefused.grantsAll_eq]
    rfl

end Shaderbox
