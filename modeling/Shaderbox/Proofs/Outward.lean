import Shaderbox.Proofs.DeviceTrace
import Shaderbox.Scene.Programs

/-!
# What programs ask of others than the device

A program may also turn to the window system and to its observer. What it asks of them is kept here
in order, and calls on the device and log records are left out. Building programs and looking up
uniforms involves nobody but the device and the log.
-/

namespace Shaderbox

open Interaction

/-- Whether a request goes to the window system or to the observer. -/
def Request.isOutward : Request Graphics → Bool
  | .graphics _ => false
  | .window _ => true
  | .log _ => false
  | .observe _ => true

/-- What was asked of the window system and of the observer, in order. -/
def outward (exchanges : List (Exchange (Effects Graphics))) : List (Request Graphics) :=
  (exchanges.map Exchange.request).filter Request.isOutward

theorem outward_append (front back : List (Exchange (Effects Graphics))) :
    outward (front ++ back) = outward front ++ outward back := by
  rw [outward, List.map_append, List.filter_append]
  rfl

variable {α β : Type} {spec : List (Request Graphics) → α → Prop}

/-- Whether what a program has asked of others than the device and the log when it comes to a
result is as specified. -/
def Speaks (program : Action α) (spec : List (Request Graphics) → α → Prop) : Prop :=
  ∀ exchanges result, Yields program exchanges (.ok result) → spec (outward exchanges) result

/-- Whether a program asks just the given requests of others than the device and the log. -/
abbrev Says (program : Action α) (words : List (Request Graphics)) : Prop :=
  Speaks program fun asked _ => asked = words

/-- Whether a program asks nothing of others than the device and the log. -/
abbrev Quiet (program : Action α) : Prop := Says program []

theorem speaks_done {result : α} (h : spec [] result) : Speaks (.done result) spec := by
  intro exchanges other hyields
  cases hyields
  exact h

theorem speaks_abort {cause : Abort} : Speaks (.abort cause : Action α) spec := by
  intro exchanges other hyields
  cases hyields

/-- Of two programs in sequence the first asks first, and the second goes on from there. -/
theorem Speaks.bind {program : Action β} {next : β → Action α}
    {first : List (Request Graphics) → β → Prop} (h : Speaks program first)
    (hnext : ∀ asked between, first asked between →
      Speaks (next between) fun rest result => spec (asked ++ rest) result) :
    Speaks (program.bind next) spec := by
  intro exchanges result hyields
  rcases yields_bind_iff.mp hyields with
    ⟨cause, -, herror⟩ | ⟨front, between, back, rfl, hfirst, hrest⟩
  · contradiction
  · rw [outward_append]
    exact hnext _ between (h _ _ hfirst) _ _ hrest

/-- Behind a program that asks nothing only the next one counts. -/
theorem Quiet.speaks_bind {program : Action β} {next : β → Action α} (h : Quiet program)
    (hnext : ∀ between, Speaks (next between) spec) : Speaks (program.bind next) spec := by
  refine Speaks.bind h fun asked between hasked => ?_
  rw [hasked]
  exact hnext between

/-- Before programs that ask nothing only the first one counts. -/
theorem Says.bind_quiet {program : Action β} {next : β → Action α}
    {words : List (Request Graphics)} (h : Says program words)
    (hnext : ∀ between, Quiet (next between)) : Says (program.bind next) words := by
  refine Speaks.bind h fun asked between hasked exchanges result hyields => ?_
  rw [hasked, hnext between _ _ hyields]
  exact List.append_nil words

theorem Quiet.bind {program : Action β} {next : β → Action α} (h : Quiet program)
    (hnext : ∀ between, Quiet (next between)) : Quiet (program.bind next) :=
  Says.bind_quiet h hnext

theorem quiet_done (result : α) : Quiet (.done result) := speaks_done rfl

theorem quiet_abort (cause : Abort) : Quiet (.abort cause : Action α) := speaks_abort

theorem quiet_graphics (call : GraphicsCall) : Quiet (Action.graphics call) := by
  intro exchanges result hyields
  cases hyields with
  | ask _ _ answer hdone =>
    cases hdone
    rfl

theorem quiet_log (level : LogLevel) (message : String) : Quiet (Action.log level message) := by
  intro exchanges result hyields
  cases hyields with
  | ask _ _ answer hdone =>
    cases hdone
    rfl

theorem says_observe (observation : Observation) :
    Says (Action.observe observation) [.observe observation] := by
  intro exchanges result hyields
  cases hyields with
  | ask _ _ answer hdone =>
    cases hdone
    rfl

theorem quiet_ofExcept (result : Except Abort α) : Quiet (.ofExcept result) := by
  cases result with
  | ok result => exact quiet_done result
  | error cause => exact quiet_abort cause

/-- A log record that is written on a condition is nothing that is asked. -/
theorem quiet_log_when {condition : Bool} {level : LogLevel} {message : String}
    {next : Unit → Action α} (h : Quiet (next ())) :
    Quiet (if condition then (Action.log level message).bind next else next ()) := by
  cases condition with
  | true => exact (quiet_log level message).bind fun _ => h
  | false => exact h

/-- What is done on an abort never leads to a result. -/
theorem Speaks.onAbort {program : Action α} (h : Speaks program spec) (cleanUp : Action Unit) :
    Speaks (program.onAbort cleanUp) spec := by
  intro exchanges result hyields
  rcases yields_onAbort hyields with ⟨hprogram, -⟩ | ⟨_, cause, _, -, -, hcleanUp⟩
  · exact h _ _ hprogram
  · rcases yields_bind_iff.mp hcleanUp with ⟨_, -, herror⟩ | ⟨_, _, _, -, -, habort⟩
    · contradiction
    · cases habort

section Programs

theorem quiet_logAll (records : List LogRecord) : Quiet (Action.logAll records) := by
  induction records with
  | nil => exact quiet_done ()
  | cons record rest ih => exact (quiet_log _ _).bind fun _ => ih

theorem quiet_releaseShaders (shaders : List ShaderHandle) : Quiet (releaseShaders shaders) := by
  induction shaders with
  | nil => exact quiet_done ()
  | cons shader rest ih => exact (quiet_graphics _).bind fun _ => ih

theorem quiet_attachShaders (program : ProgramHandle) (shaders : List ShaderHandle) :
    Quiet (attachShaders program shaders) := by
  induction shaders with
  | nil => exact quiet_done ()
  | cons shader rest ih =>
    exact (quiet_graphics _).bind fun _ => (quiet_graphics _).bind fun _ => ih

theorem quiet_checkCompile (shader : ShaderId) (stage : Stage) (name : String) :
    Quiet (checkCompile shader stage name) := by
  refine (quiet_graphics _).bind fun compiled => ?_
  cases compiled with
  | true => exact quiet_done _
  | false => exact (quiet_graphics _).bind fun _ => (quiet_log _ _).bind fun _ => quiet_done _

theorem quiet_checkLink (program : ProgramId) (name : String) : Quiet (checkLink program name) := by
  refine (quiet_graphics _).bind fun linked => ?_
  cases linked with
  | true => exact quiet_done _
  | false => exact (quiet_graphics _).bind fun _ => (quiet_log _ _).bind fun _ => quiet_done _

theorem quiet_checkValidate (program : ProgramId) (name : String) :
    Quiet (checkValidate program name) := by
  refine (quiet_graphics _).bind fun _ => (quiet_graphics _).bind fun valid => ?_
  cases valid with
  | true => exact quiet_done _
  | false => exact (quiet_log _ _).bind fun _ => quiet_done _

theorem quiet_pollError (site : PollSite) (message : String) (severity : ErrorSeverity) :
    Quiet (pollError site message severity) := by
  refine (quiet_graphics _).bind fun code => ?_
  dsimp only
  split
  · exact quiet_done _
  · refine (quiet_log _ _).bind fun _ => ?_
    cases severity with
    | fatal => exact quiet_abort _
    | log => exact quiet_done _

variable (files : Files) (config : ShaderConfig)

theorem quiet_compileShader (shader : ShaderHandle) (name : Path) (buffer : SourceBuffer) :
    Quiet (compileShader files config shader name buffer) := by
  refine (quiet_ofExcept _).bind fun _ => (quiet_logAll _).bind fun _ => ?_
  refine (quiet_graphics _).bind fun _ => (quiet_graphics _).bind fun _ => ?_
  exact (quiet_checkCompile _ _ _).bind fun _ => quiet_done _

theorem quiet_compileStages (stages : List (Stage × Path)) (compiled : CompiledStages)
    (buffer : SourceBuffer) : Quiet (compileStages files config stages compiled buffer) := by
  induction stages generalizing compiled buffer with
  | nil => exact quiet_done _
  | cons first rest ih =>
    refine (quiet_graphics _).bind fun answer => ?_
    cases answer with
    | error reason => exact (quiet_releaseShaders _).bind fun _ => quiet_done _
    | ok id =>
      refine Quiet.bind ?_ fun _ => ih _ _
      exact Speaks.onAbort (quiet_compileShader files config _ _ _) _

theorem quiet_finishProgram (label : String) (compiled : CompiledStages) :
    Quiet (finishProgram label compiled) := by
  refine (quiet_graphics _).bind fun answer => ?_
  cases answer with
  | error reason => exact (quiet_releaseShaders _).bind fun _ => quiet_done _
  | ok id =>
    have hlink : Quiet (linkProgram ⟨id, label⟩) :=
      (quiet_graphics _).bind fun _ => (quiet_checkLink _ _).bind fun _ => quiet_done _
    refine (quiet_attachShaders _ _).bind fun _ => hlink.bind fun _ => ?_
    refine (quiet_checkValidate _ _).bind fun _ => ?_
    exact quiet_log_when (quiet_done _)

theorem quiet_buildProgram (sources : ProgramSources) (buffer : SourceBuffer) :
    Quiet (buildProgram files config sources buffer) := by
  refine (quiet_compileStages files config _ _ _).bind fun ⟨left, compiled⟩ => ?_
  cases compiled with
  | error error => exact quiet_done _
  | ok compiled => exact (quiet_finishProgram _ _).bind fun _ => quiet_done _

theorem quiet_findUniforms (program : ProgramHandle) (bindings : List UniformBinding) :
    Quiet (findUniforms program bindings) := by
  induction bindings with
  | nil => exact quiet_done _
  | cons binding rest ih =>
    have hfind : Quiet (findUniform program binding.name) :=
      (quiet_graphics _).bind fun _ => quiet_log_when (quiet_done _)
    exact hfind.bind fun _ => ih.bind fun _ => quiet_done _

theorem quiet_resolve (program : ProgramHandle) (bindings : List UniformBinding) :
    Quiet (UniformTable.resolve program bindings) :=
  (quiet_findUniforms program bindings).bind fun _ => quiet_done _

theorem quiet_set (table : UniformTable) (semantic : String)
    {call : UniformLocation → Action Unit} (h : ∀ location, Quiet (call location)) :
    Quiet (table.set semantic call) := by
  unfold UniformTable.set
  split
  · exact h _
  · exact quiet_done _

theorem quiet_setSingle (table : UniformTable) (semantic : String) (value : Float32) :
    Quiet (table.setSingle semantic value) :=
  quiet_set table semantic fun _ => quiet_graphics _

theorem quiet_setVec4 (table : UniformTable) (semantic : String) (value : Vec4) :
    Quiet (table.setVec4 semantic value) :=
  quiet_set table semantic fun _ => quiet_graphics _

theorem quiet_setMat4 (table : UniformTable) (semantic : String) (value : Mat4) :
    Quiet (table.setMat4 semantic value) :=
  quiet_set table semantic fun _ => quiet_graphics _

theorem quiet_releasePrograms (programs : ScenePrograms) : Quiet programs.release :=
  (quiet_graphics _).bind fun _ => quiet_graphics _

theorem quiet_buildScenePrograms (settings : SceneConfig) :
    Quiet (ScenePrograms.build files settings) := by
  refine (quiet_ofExcept _).bind fun _ => ?_
  refine (quiet_buildProgram files _ _ _).bind fun ⟨_, basic⟩ => ?_
  cases basic with
  | error error => exact quiet_done _
  | ok basic =>
    refine (quiet_buildProgram files _ _ _).bind fun ⟨_, grid⟩ => ?_
    cases grid with
    | error error => exact (quiet_graphics _).bind fun _ => quiet_done _
    | ok grid => exact (quiet_resolve _ _).bind fun _ => (quiet_resolve _ _).bind fun _ => quiet_done _

end Programs

end Shaderbox
