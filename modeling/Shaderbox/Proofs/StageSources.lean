import Shaderbox.Proofs.BuildProgram
import Shaderbox.Proofs.SceneHistory
import Shaderbox.Proofs.SourceCuts
import Shaderbox.Simulation.World

/-!
# What the stages of a program are compiled from

One buffer holds the source of each stage in turn, through all builds that it is used for. Its
capacity never changes, and nothing else of it has a bearing on the next source. So each stage is
compiled from what its own file expands to, and in a buffer made for the settings, which holds as
much as an expansion may have, from all of it.
-/

namespace Shaderbox

open Interaction

variable {files : Files} {config : ShaderConfig}

/-- A stage with what its file is expanded to in a buffer of some capacity. -/
def expandedStage (files : Files) (config : ShaderConfig) (capacity : Nat) (stage : Stage × Path) :
    ExpandedStage :=
  let expansion := expandedWithin files config capacity (config.path stage.2)
  ⟨stage.1, stage.2, expansion.text, expansion.report.findings⟩

/-- A stage with what its file is expanded to, without a buffer. -/
def resolvedStage (files : Files) (config : ShaderConfig) (stage : Stage × Path) :
    Except Abort ExpandedStage := do
  let expansion ← expand files config (config.path stage.2)
  return ⟨stage.1, stage.2, expansion.text, expansion.report.findings⟩

section Stages

/-- Every stage is expanded as if it were the only one. -/
theorem expandStages_eq (files : Files) (hsize : config.maxSourceSize < sizeMax)
    (stages : List (Stage × Path)) (buffer : SourceBuffer) :
    expandStages files config stages buffer =
      .ok (stages.map (expandedStage files config buffer.capacity)) := by
  induction stages generalizing buffer with
  | nil => rfl
  | cons first rest ih =>
    rw [expandStages, expandInto_eq files hsize]
    change (expandStages files config rest _ >>= fun others => _) = _
    rw [ih]
    rfl

/-- A buffer as large as an expansion may be cuts nothing off. -/
theorem expandedWithin_maxSourceSize (path : Path) :
    expandedWithin files config config.maxSourceSize path =
      (uncapped files config path).capped path config.maxSourceSize :=
  if_pos (Expansion.isLongestWithin_cut path config.maxSourceSize _ _).fits

/-- In a buffer as large as an expansion may be every stage is expanded as without one. -/
theorem mapM_resolvedStage (files : Files) (hsize : config.maxSourceSize < sizeMax)
    (stages : List (Stage × Path)) :
    stages.mapM (resolvedStage files config) =
      .ok (stages.map (expandedStage files config config.maxSourceSize)) := by
  induction stages with
  | nil => rfl
  | cons first rest ih =>
    rw [List.mapM_cons, ih, resolvedStage, expand_eq files hsize, List.map_cons, expandedStage,
      expandedWithin_maxSourceSize]
    rfl

end Stages

section Capacity

/-- What a program gives back is not touched by what it would do on an abort. -/
theorem Returns.onAbort {α : Type} {program : Action α} {kind : α → Prop}
    (h : Returns program kind) (cleanUp : Action Unit) : Returns (program.onAbort cleanUp) kind := by
  intro exchanges result hyields
  rcases yields_onAbort hyields with ⟨hprogram, -⟩ | ⟨_, cause, back, rfl, -, habort⟩
  · exact h _ _ hprogram
  · rcases yields_bind_iff.mp habort with ⟨_, -, herror⟩ | ⟨_, _, _, -, -, hcause⟩
    · contradiction
    · cases hcause

theorem returns_ofExcept {α : Type} {value : Except Abort α} {kind : α → Prop}
    (h : ∀ result, value = .ok result → kind result) :
    Returns (.ofExcept value) kind := by
  intro exchanges result hyields
  cases value with
  | error cause => cases hyields
  | ok value =>
    cases hyields
    exact h _ rfl

/-- A file that is expanded into a buffer keeps its capacity. -/
theorem capacity_of_expandInto {path : Path} {buffer : SourceBuffer}
    {filled : SourceBuffer × Expansion} (h : expandInto files config path buffer = .ok filled) :
    filled.1.capacity = buffer.capacity := by
  obtain ⟨expansion, -, hfilled⟩ := exists_ok_of_bind h
  obtain rfl := Except.ok.inj hfilled
  rfl

theorem returns_compileShader (shader : ShaderHandle) (name : Path) (buffer : SourceBuffer) :
    Returns (compileShader files config shader name buffer) fun compiled =>
      compiled.1.capacity = buffer.capacity := by
  have hfilled : Returns (.ofExcept (expandInto files config (config.path name) buffer)) fun filled =>
      filled.1.capacity = buffer.capacity :=
    returns_ofExcept fun _ hexpand => capacity_of_expandInto hexpand
  exact hfilled.bind fun filled hcapacity => returns_bind fun _ => returns_bind fun _ =>
    returns_bind fun _ => returns_bind fun _ => returns_done hcapacity

theorem returns_compileStages (stages : List (Stage × Path)) (compiled : CompiledStages)
    (buffer : SourceBuffer) :
    Returns (compileStages files config stages compiled buffer) fun step =>
      step.buffer.capacity = buffer.capacity := by
  induction stages generalizing compiled buffer with
  | nil => exact returns_done rfl
  | cons first rest ih =>
    obtain ⟨stage, name⟩ := first
    refine returns_bind fun answer => ?_
    cases answer with
    | error reason => exact returns_bind fun _ => returns_done rfl
    | ok shader =>
      refine ((returns_compileShader shader name buffer).onAbort _).bind fun filled hfilled => ?_
      intro exchanges step hyields
      exact (ih _ _ _ _ hyields).trans hfilled

/-- A build keeps the capacity of the buffer it uses. -/
theorem returns_buildProgram (sources : ProgramSources) (buffer : SourceBuffer) :
    Returns (buildProgram files config sources buffer) fun step =>
      step.buffer.capacity = buffer.capacity := by
  refine (returns_compileStages sources.stages ⟨[], []⟩ buffer).bind fun step hstep => ?_
  obtain ⟨left, compiled⟩ := step
  cases compiled with
  | error error => exact returns_done hstep
  | ok compiled => exact returns_bind fun _ => returns_done hstep

end Capacity

/-- What may have become of a buffer that was used for builds and otherwise. -/
inductive Reused (buffer : SourceBuffer) : SourceBuffer → Prop where
  | unused : Reused buffer buffer
  | used {now next : SourceBuffer} (use : BufferUse) :
      Reused buffer now → use.perform now = .ok next → Reused buffer next
  | built {now : SourceBuffer} (files : Files) (config : ShaderConfig) (sources : ProgramSources)
      {exchanges : List (Exchange (Effects Graphics))} {step : BuildStep ProgramBuild} :
      Reused buffer now → Yields (buildProgram files config sources now) exchanges (.ok step) →
        Reused buffer step.buffer

/-- Whatever a buffer was used for, its capacity is the same. -/
theorem Reused.capacity_eq {buffer now : SourceBuffer} (h : Reused buffer now) :
    now.capacity = buffer.capacity := by
  induction h with
  | unused => rfl
  | @used now next use _ hperform ih =>
    refine Eq.trans ?_ ih
    cases use with
    | replace text =>
      obtain rfl := Except.ok.inj hperform
      rfl
    | clear =>
      obtain rfl := Except.ok.inj hperform
      rfl
    | expand files config path =>
      obtain ⟨filled, hexpand, hfilled⟩ := exists_ok_of_bind hperform
      obtain rfl := Except.ok.inj hfilled
      exact capacity_of_expandInto hexpand
  | built files config sources _ hyields ih =>
    exact (returns_buildProgram sources _ _ _ hyields).trans ih

/-- A file is expanded to the longest beginning of its whole expansion that the cap on sizes allows,
and in a buffer to the longest that its capacity allows as well. Each cut that loses anything is
reported once. -/
structure KeepsLongest (files : Files) (config : ShaderConfig) (path : Path)
    (resolved : Expansion) : Prop where
  resolves : expand files config path = .ok resolved
  longest : IsLongestWithin config.maxSourceSize (uncapped files config path).text resolved.text
  uncut : (uncapped files config path).report.truncated = false
  findings : resolved.report.findings = (uncapped files config path).report.findings ++
    cutFindings path config.maxSourceSize (uncapped files config path).text
  fills : ∀ buffer : SourceBuffer, ∃ filled expansion,
    expandInto files config path buffer = .ok (filled, expansion) ∧
      IsLongestWithin (min config.maxSourceSize buffer.capacity) (uncapped files config path).text
        filled.text ∧
      filled.capacity = buffer.capacity ∧
      expansion.report.findings =
        resolved.report.findings ++ cutFindings path buffer.capacity resolved.text

theorem exists_keepsLongest (files : Files) (hsize : config.maxSourceSize < sizeMax) (path : Path) :
    ∃ resolved, KeepsLongest files config path resolved := by
  refine ⟨_, expand_eq files hsize path, Expansion.isLongestWithin_cut _ _ _ _,
    Expansion.truncated_ofWalk _ _, Expansion.findings_cut _ _ _ _, fun buffer => ?_⟩
  refine ⟨_, _, expandInto_eq files hsize path buffer, ?_, rfl, Expansion.findings_cut _ _ _ _⟩
  exact (Expansion.isLongestWithin_cut path config.maxSourceSize _ _).trans
    (Expansion.isLongestWithin_cut path buffer.capacity _ _)

/-- Capping keeps longest beginnings, a buffer never holds more than its capacity, and in the buffer
for the settings each stage of a program is compiled from what its file resolves to, whatever the
buffer was used for before. -/
theorem capping_keeps_longest (files : Files) (config : ShaderConfig)
    (hsize : config.maxSourceSize < sizeMax) :
    (∀ path, ∃ resolved, KeepsLongest files config path resolved) ∧
      (∀ (capacity : Nat) (buffer : SourceBuffer) (uses : List BufferUse),
        SourceBuffer.withCapacity capacity = .ok buffer → (∀ use ∈ uses, use.HasRoom) →
          ∃ last, BufferUse.performAll uses buffer = .ok last ∧ last.capacity = capacity ∧
            last.IsBounded) ∧
      ∀ (buffer now : SourceBuffer) (sources : ProgramSources)
        (exchanges : List (Exchange (Effects Graphics)))
        (outcome : Except Abort (BuildStep ProgramBuild)),
        sourceBuffer config = .ok buffer → Reused buffer now →
          Yields (buildProgram files config sources now) exchanges outcome →
            ∃ step resolved, outcome = .ok step ∧
              ((Stage.vertex, sources.vertex) :: (sources.geometry.toList.map (Stage.geometry, ·) ++
                  sources.fragment.toList.map (Stage.fragment, ·))).mapM
                (resolvedStage files config) = .ok resolved ∧
              BuildTrace sources.label resolved (deviceTrace exchanges) step.result := by
  refine ⟨exists_keepsLongest files hsize, ?_, ?_⟩
  · intro capacity buffer uses hbuffer hroom
    obtain rfl := SourceBuffer.eq_of_withCapacity hbuffer
    have hempty : SourceBuffer.IsBounded ⟨"", capacity⟩ := Nat.zero_le _
    exact BufferUse.performAll_bounded hroom hempty
  · intro buffer now sources exchanges outcome hbuffer hreused hyields
    obtain ⟨step, rfl, expanded, hexpanded, htrace⟩ :=
      ensures_buildProgram hsize sources now _ _ hyields
    have hcapacity : now.capacity = config.maxSourceSize := by
      rw [hreused.capacity_eq, SourceBuffer.eq_of_withCapacity hbuffer]
    rw [expandStages_eq files hsize, hcapacity, sources.stages_eq] at hexpanded
    obtain rfl := Except.ok.inj hexpanded
    exact ⟨step, _, rfl, mapM_resolvedStage files hsize _, htrace⟩

/-- A file that includes another one, in which not every character takes one byte. -/
def accentedFiles : Files := fun path =>
  if path.text = "shaders/whole" then .file "#include \"part\"".toUTF8
  else if path.text = "shaders/part" then .file "éééé€".toUTF8
  else .absent

/-- The whole expansion takes nineteen bytes. A cap of fifteen cuts it within the marker, and a
buffer of ten bytes before the last accented character, of which only two bytes would fit. What the
buffer for the settings held before leaves no mark on the sources of a build. -/
theorem capping_keeps_longest_accentedFiles :
    ({ maxSourceSize := 15 } : ShaderConfig).maxSourceSize < sizeMax ∧
      (∃ resolved filled expansion,
        expand accentedFiles { maxSourceSize := 15 } ⟨"shaders/whole"⟩ = .ok resolved ∧
          resolved.text = "éééé€\n#li" ∧
          expandInto accentedFiles { maxSourceSize := 15 } ⟨"shaders/whole"⟩ ⟨"before", 10⟩ =
            .ok (filled, expansion) ∧
          filled = ⟨"éééé", 10⟩ ∧
          expansion.report.findings =
            [.outputTruncated ⟨"shaders/whole"⟩ 15, .outputTruncated ⟨"shaders/whole"⟩ 10]) ∧
      ∃ exchanges step resolved,
        Yields (buildProgram accentedFiles { maxSourceSize := 15 }
          ⟨⟨"whole"⟩, none, some ⟨"part"⟩⟩ ⟨"before", 15⟩) exchanges (.ok step) ∧
        BuildTrace "whole+part" resolved (deviceTrace exchanges) step.result ∧
        resolved.map ExpandedStage.source = ["éééé€\n#li", "éééé€"] := by
  have hroom : ({ maxSourceSize := 15 } : ShaderConfig).maxSourceSize < sizeMax := by decide
  obtain ⟨hresolves, -, hbuilds⟩ := capping_keeps_longest accentedFiles { maxSourceSize := 15 } hroom
  refine ⟨hroom, ?_, ?_⟩
  · obtain ⟨resolved, hresolved⟩ := hresolves ⟨"shaders/whole"⟩
    obtain ⟨filled, expansion, hfilled, hlongest, hcapacity, hfindings⟩ :=
      hresolved.fills ⟨"before", 10⟩
    have hwhole : uncapped accentedFiles { maxSourceSize := 15 } ⟨"shaders/whole"⟩ =
        ⟨"éééé€\n#line 1", ⟨[], [⟨"shaders/whole"⟩, ⟨"shaders/part"⟩]⟩, []⟩ := by
      decide +kernel
    have htext : resolved.text = "éééé€\n#li" := by
      rw [hresolved.longest.unique (.of_cutText 15 _), hwhole]
      decide +kernel
    have hheld : filled.text = "éééé" := by
      rw [hlongest.unique (.of_cutText 10 _), hwhole]
      decide +kernel
    refine ⟨resolved, filled, expansion, hresolved.resolves, htext, hfilled, ?_, ?_⟩
    · obtain ⟨text, capacity⟩ := filled
      exact congrArg₂ SourceBuffer.mk hheld hcapacity
    · rw [hfindings, hresolved.findings, htext, hwhole]
      decide +kernel
  · let program := buildProgram accentedFiles { maxSourceSize := 15 }
      ⟨⟨"whole"⟩, none, some ⟨"part"⟩⟩ ⟨"before", 15⟩
    obtain ⟨exchanges, hyields⟩ := yields_run (World.answerOther World.answerGraphics) program {}
    have hreused : Reused ⟨"", 15⟩ ⟨"before", 15⟩ :=
      .used (.replace "before") .unused rfl
    obtain ⟨step, resolved, houtcome, hresolved, htrace⟩ :=
      hbuilds _ _ _ _ _ rfl hreused hyields
    rw [houtcome] at hyields
    rw [mapM_resolvedStage accentedFiles hroom] at hresolved
    refine ⟨exchanges, step, resolved, hyields, htrace, ?_⟩
    rw [← Except.ok.inj hresolved]
    decide +kernel

end Shaderbox
