import Shaderbox.Proofs.BuildProgram

/-!
# When a build succeeds

Whether a build succeeded is read off its findings. That agrees with what the device answered: a
build gives back a program and counts as successful exactly when no creation was refused and no
check failed. What is found while sources are expanded never makes a build fail.
-/

namespace Shaderbox

/-- Whether an exchange is a refused creation or a check that failed. -/
def Exchange.fails : Exchange Graphics → Bool
  | ⟨.createShader _, .error _⟩ => true
  | ⟨.createProgram, .error _⟩ => true
  | ⟨.createVertexArray, .error _⟩ => true
  | ⟨.compileStatus _, false⟩ => true
  | ⟨.linkStatus _, false⟩ => true
  | ⟨.validateStatus _, false⟩ => true
  | _ => false

section Findings

theorem buildSucceeded_append (front back : List Finding) :
    buildSucceeded (front ++ back) = (buildSucceeded front && buildSucceeded back) := by
  simp [buildSucceeded, Bool.not_or]

/-- What an event of a walk gives rise to leaves a build successful. -/
theorem IncludeEvent.failsBuild_finding {event : IncludeEvent} {finding : Finding}
    (h : event.finding? = some finding) : finding.failsBuild = false := by
  cases event <;> cases h <;> rfl

/-- What a walk found leaves a build successful. -/
theorem buildSucceeded_ofWalk (path : Path) (walk : Walk) :
    buildSucceeded (Expansion.ofWalk path walk).report.findings = true := by
  have hevents : buildSucceeded (walk.events.filterMap IncludeEvent.finding?) = true := by
    rw [buildSucceeded, Bool.not_eq_true', List.any_eq_false]
    intro finding hfinding
    obtain ⟨event, -, hevent⟩ := List.mem_filterMap.mp hfinding
    rw [IncludeEvent.failsBuild_finding hevent]
    exact Bool.false_ne_true
  rw [Expansion.ofWalk, buildSucceeded_append, hevents, Bool.true_and]
  split
  · rfl
  · rfl

/-- What is found about cutting a text leaves a build successful. -/
theorem buildSucceeded_cut {path : Path} {capacity : Nat} {message : String}
    {expansion : Expansion} (h : buildSucceeded expansion.report.findings = true) :
    buildSucceeded (expansion.cut path capacity message).report.findings = true := by
  unfold Expansion.cut
  split
  · exact h
  · rw [buildSucceeded_append, h, Bool.true_and]
    rfl

variable {files : Files} {config : ShaderConfig} {buffer : SourceBuffer}

/-- What is found while a file is expanded leaves a build successful. -/
theorem buildSucceeded_expandInto {path : Path} {filled : SourceBuffer} {expansion : Expansion}
    (h : expandInto files config path buffer = .ok (filled, expansion)) :
    buildSucceeded expansion.report.findings = true := by
  obtain ⟨uncut, hexpand, hcut⟩ := exists_ok_of_bind h
  obtain ⟨rfl, rfl⟩ := Prod.mk.inj (Except.ok.inj hcut)
  unfold expand expandBounded at hexpand
  dsimp only at hexpand
  split at hexpand
  · contradiction
  · obtain rfl := Except.ok.inj hexpand
    exact buildSucceeded_cut (buildSucceeded_cut (buildSucceeded_ofWalk _ _))

/-- What is found while stages are expanded leaves a build successful. -/
theorem buildSucceeded_expandStages {stages : List (Stage × Path)} {expanded : List ExpandedStage}
    (h : expandStages files config stages buffer = .ok expanded) :
    ∀ stage ∈ expanded, buildSucceeded stage.findings = true := by
  induction stages generalizing buffer expanded with
  | nil =>
    obtain rfl := Except.ok.inj h
    simp
  | cons first rest ih =>
    obtain ⟨⟨filled, expansion⟩, hexpand, hrest⟩ := exists_ok_of_bind h
    obtain ⟨others, hothers, hcons⟩ := exists_ok_of_bind hrest
    obtain rfl := Except.ok.inj hcons
    intro stage hstage
    rcases List.mem_cons.mp hstage with rfl | hstage
    · exact buildSucceeded_expandInto hexpand
    · exact ih hothers stage hstage

end Findings

section Failures

/-- Whether nothing fails in a trace. -/
def nothingFails (trace : List (Exchange Graphics)) : Bool :=
  !trace.any Exchange.fails

theorem nothingFails_append (front back : List (Exchange Graphics)) :
    nothingFails (front ++ back) = (nothingFails front && nothingFails back) := by
  simp [nothingFails, Bool.not_or]

theorem nothingFails_attachments (program : ProgramId) (shaders : List ShaderId) :
    nothingFails (attachments program shaders) = true := by
  simp [nothingFails, attachments, Exchange.fails]

/-- What is found about a compiled stage tells whether it compiled. -/
theorem nothingFails_compiledStage (compiled : CompiledStage)
    (h : buildSucceeded compiled.expanded.findings = true) :
    nothingFails compiled.trace = buildSucceeded compiled.findings := by
  obtain ⟨expanded, shader, failure⟩ := compiled
  rw [CompiledStage.findings, buildSucceeded_append, h, Bool.true_and]
  cases failure with
  | none => rfl
  | some log => rfl

/-- What is found about compiled stages tells whether all compiled. -/
theorem nothingFails_compiledStages (compiled : List CompiledStage)
    (h : ∀ stage ∈ compiled.map CompiledStage.expanded, buildSucceeded stage.findings = true) :
    nothingFails (compiled.flatMap CompiledStage.trace) =
      buildSucceeded (compiled.flatMap CompiledStage.findings) := by
  induction compiled with
  | nil => rfl
  | cons first rest ih =>
    obtain ⟨hfirst, hrest⟩ := List.forall_mem_cons.mp h
    rw [List.flatMap_cons, List.flatMap_cons, nothingFails_append, buildSucceeded_append, ih hrest,
      nothingFails_compiledStage first hfirst]

/-- What is found about a program tells whether it linked and validated. -/
theorem nothingFails_finishedProgram (label : String) (finished : FinishedProgram)
    (shaders : List ShaderId) :
    nothingFails (finished.trace shaders) = buildSucceeded (finished.findings label) := by
  obtain ⟨program, failure, valid⟩ := finished
  have hattached :
      nothingFails (⟨.createProgram, .ok program⟩ :: attachments program shaders) = true :=
    nothingFails_attachments program shaders
  rw [FinishedProgram.trace, nothingFails_append, nothingFails_append, hattached, Bool.true_and,
    FinishedProgram.findings, buildSucceeded_append]
  cases failure with
  | none => cases valid <;> rfl
  | some log => cases valid <;> rfl

/-- Stages are found to be good when all of them compiled, whatever was found in their sources. -/
theorem buildSucceeded_compiledStages {made : List CompiledStage}
    (h : ∀ compiled ∈ made, buildSucceeded compiled.expanded.findings = true) :
    buildSucceeded (made.flatMap CompiledStage.findings) = true ↔
      ∀ compiled ∈ made, compiled.failure = none := by
  induction made with
  | nil => simp [buildSucceeded]
  | cons first rest ih =>
    obtain ⟨hfirst, hrest⟩ := List.forall_mem_cons.mp h
    have hcompiled : buildSucceeded first.findings = true ↔ first.failure = none := by
      rw [CompiledStage.findings, buildSucceeded_append, hfirst, Bool.true_and]
      cases first.failure <;> simp [buildSucceeded, Finding.failsBuild]
    rw [List.flatMap_cons, buildSucceeded_append, Bool.and_eq_true, ih hrest, hcompiled,
      List.forall_mem_cons]

/-- A program is found to be good when it linked and validated. -/
theorem buildSucceeded_finishedProgram (label : String) (finished : FinishedProgram) :
    buildSucceeded (finished.findings label) = true ↔
      finished.linkFailure = none ∧ finished.valid = true := by
  obtain ⟨program, failure, valid⟩ := finished
  cases failure <;> cases valid <;>
    simp [FinishedProgram.findings, buildSucceeded, Finding.failsBuild]

/-- Whether nothing failed in a build, as its result tells. -/
def goodBuild {α : Type} (succeeded : α → Bool) : Except CreateError α → Bool
  | .ok build => succeeded build
  | .error _ => false

/-- A build that gives back a program succeeded when nothing failed in its trace, and in the trace
of one that gives back none a creation failed. -/
theorem BuildTrace.nothingFails_eq {label : String} {stages : List ExpandedStage}
    {trace : List (Exchange Graphics)} {result : Except CreateError ProgramBuild}
    (hstages : ∀ stage ∈ stages, buildSucceeded stage.findings = true)
    (h : BuildTrace label stages trace result) :
    nothingFails trace = goodBuild ProgramBuild.succeeded result := by
  cases h with
  | built compiled finished all =>
    rw [nothingFails_append, nothingFails_compiledStages compiled (by rwa [all]),
      nothingFails_finishedProgram label, ← buildSucceeded_append]
    rfl
  | shaderRefused compiled refused rest reason =>
    rw [nothingFails_append]
    exact Bool.and_false _
  | programRefused compiled reason =>
    rw [nothingFails_append]
    exact Bool.and_false _

end Failures

end Shaderbox
