import Shaderbox.Demo.Swirl
import Shaderbox.Proofs.RawCalls
import Shaderbox.Proofs.SceneHistory
import Shaderbox.Simulation.World

/-!
# The engine over raw calls

The engine looks up uniforms by names of its own, none of which holds a zero character, and nothing
else that it asks for could fail to be handed to the native library. So every run of its clients
over raw calls is the translation of a run on the device: program builds, lookups and settings of
uniforms, scenes and their particles, in any order and however they end.
-/

namespace Shaderbox

open Interaction

section Rules

variable {α β : Type}

namespace Crosses

theorem bind {program : Action α} {next : α → Action β} (h : Crosses program)
    (hnext : ∀ result, Crosses (next result)) : Crosses (program.bind next) := by
  induction h with
  | done result => exact hnext result
  | abort cause => exact .abort cause
  | ask hrequest _ ih => exact .ask hrequest ih

theorem onAbort {program : Action α} {cleanUp : Action Unit} (h : Crosses program)
    (hcleanUp : Crosses cleanUp) : Crosses (program.onAbort cleanUp) := by
  induction h with
  | done result => exact .done result
  | abort cause =>
    rw [Interaction.onAbort]
    split
    · exact hcleanUp.bind fun _ => .abort cause
    · exact .abort cause
  | ask hrequest _ ih => exact .ask hrequest ih

end Crosses

theorem crosses_graphics {call : GraphicsCall} (h : call.crosses = true) :
    Crosses (Action.graphics call) :=
  .ask h fun answer => .done answer

theorem crosses_log (level : LogLevel) (message : String) : Crosses (Action.log level message) :=
  .ask rfl fun _ => .done ()

theorem crosses_ofExcept (result : Except Abort α) : Crosses (.ofExcept result) := by
  cases result with
  | ok result => exact .done result
  | error cause => exact .abort cause

/-- A log record that is written on a condition can be handed over as any other. -/
theorem crosses_log_when {condition : Bool} {level : LogLevel} {message : String}
    {next : Unit → Action α} (h : Crosses (next ())) :
    Crosses (if condition then (Action.log level message).bind next else next ()) := by
  cases condition with
  | true => exact (crosses_log level message).bind fun _ => h
  | false => exact h

theorem crosses_logAll (records : List LogRecord) : Crosses (Action.logAll records) := by
  induction records with
  | nil => exact .done ()
  | cons record rest ih => exact (crosses_log _ _).bind fun _ => ih

end Rules

section Programs

theorem crosses_releaseShaders (shaders : List ShaderHandle) :
    Crosses (releaseShaders shaders) := by
  induction shaders with
  | nil => exact .done ()
  | cons shader rest ih => exact (crosses_graphics rfl).bind fun _ => ih

theorem crosses_attachShaders (program : ProgramHandle) (shaders : List ShaderHandle) :
    Crosses (attachShaders program shaders) := by
  induction shaders with
  | nil => exact .done ()
  | cons shader rest ih =>
    exact (crosses_graphics rfl).bind fun _ => (crosses_graphics rfl).bind fun _ => ih

theorem crosses_checkCompile (shader : ShaderId) (stage : Stage) (name : String) :
    Crosses (checkCompile shader stage name) := by
  refine (crosses_graphics rfl).bind fun compiled => ?_
  cases compiled with
  | true => exact .done _
  | false => exact (crosses_graphics rfl).bind fun _ => (crosses_log _ _).bind fun _ => .done _

theorem crosses_checkLink (program : ProgramId) (name : String) :
    Crosses (checkLink program name) := by
  refine (crosses_graphics rfl).bind fun linked => ?_
  cases linked with
  | true => exact .done _
  | false => exact (crosses_graphics rfl).bind fun _ => (crosses_log _ _).bind fun _ => .done _

theorem crosses_checkValidate (program : ProgramId) (name : String) :
    Crosses (checkValidate program name) := by
  refine (crosses_graphics rfl).bind fun _ => (crosses_graphics rfl).bind fun valid => ?_
  cases valid with
  | true => exact .done _
  | false => exact (crosses_log _ _).bind fun _ => .done _

theorem crosses_pollError (site : PollSite) (message : String) (severity : ErrorSeverity) :
    Crosses (pollError site message severity) := by
  refine (crosses_graphics rfl).bind fun code => ?_
  dsimp only
  split
  · exact .done _
  · refine (crosses_log _ _).bind fun _ => ?_
    cases severity with
    | fatal => exact .abort _
    | log => exact .done _

variable (files : Files) (config : ShaderConfig)

theorem crosses_compileShader (shader : ShaderHandle) (name : Path) (buffer : SourceBuffer) :
    Crosses (compileShader files config shader name buffer) := by
  refine (crosses_ofExcept _).bind fun _ => (crosses_logAll _).bind fun _ => ?_
  refine (crosses_graphics rfl).bind fun _ => (crosses_graphics rfl).bind fun _ => ?_
  exact (crosses_checkCompile _ _ _).bind fun _ => .done _

theorem crosses_compileStages (stages : List (Stage × Path)) (compiled : CompiledStages)
    (buffer : SourceBuffer) : Crosses (compileStages files config stages compiled buffer) := by
  induction stages generalizing compiled buffer with
  | nil => exact .done _
  | cons first rest ih =>
    refine (crosses_graphics rfl).bind fun answer => ?_
    cases answer with
    | error reason => exact (crosses_releaseShaders _).bind fun _ => .done _
    | ok id =>
      refine Crosses.bind ?_ fun _ => ih _ _
      exact (crosses_compileShader files config _ _ _).onAbort (crosses_releaseShaders _)

theorem crosses_linkProgram (program : ProgramHandle) : Crosses (linkProgram program) :=
  (crosses_graphics rfl).bind fun _ => (crosses_checkLink _ _).bind fun _ => .done _

theorem crosses_finishProgram (label : String) (compiled : CompiledStages) :
    Crosses (finishProgram label compiled) := by
  refine (crosses_graphics rfl).bind fun answer => ?_
  cases answer with
  | error reason => exact (crosses_releaseShaders _).bind fun _ => .done _
  | ok id =>
    refine (crosses_attachShaders _ _).bind fun _ => (crosses_linkProgram _).bind fun _ => ?_
    exact (crosses_checkValidate _ _).bind fun _ => crosses_log_when (.done _)

theorem crosses_buildProgram (sources : ProgramSources) (buffer : SourceBuffer) :
    Crosses (buildProgram files config sources buffer) := by
  refine (crosses_compileStages files config _ _ _).bind fun ⟨left, compiled⟩ => ?_
  cases compiled with
  | error error => exact .done _
  | ok compiled => exact (crosses_finishProgram _ _).bind fun _ => .done _

/-- Uniforms can be looked up when none of their names holds a zero character. -/
theorem crosses_resolve (program : ProgramHandle) {bindings : List UniformBinding}
    (h : ∀ binding ∈ bindings, binding.name.contains '\x00' = false) :
    Crosses (UniformTable.resolve program bindings) := by
  have hfind : ∀ bindings : List UniformBinding,
      (∀ binding ∈ bindings, binding.name.contains '\x00' = false) →
        Crosses (findUniforms program bindings) := by
    intro bindings hnames
    induction bindings with
    | nil => exact .done _
    | cons binding rest ih =>
      obtain ⟨hname, hrest⟩ := List.forall_mem_cons.mp hnames
      have hcall : (GraphicsCall.uniformLocation program.id binding.name).crosses = true :=
        (Bool.not_eq_true' _).mpr hname
      have hone : Crosses (findUniform program binding.name) :=
        (crosses_graphics hcall).bind fun _ => crosses_log_when (.done _)
      exact hone.bind fun _ => (ih hrest).bind fun _ => .done _
  exact (hfind bindings h).bind fun _ => .done _

theorem crosses_set (table : UniformTable) (semantic : String)
    {call : UniformLocation → Action Unit} (h : ∀ location, Crosses (call location)) :
    Crosses (table.set semantic call) := by
  unfold UniformTable.set
  split
  · exact h _
  · exact .done _

theorem crosses_setSingle (table : UniformTable) (semantic : String) (value : Float32) :
    Crosses (table.setSingle semantic value) :=
  crosses_set table semantic fun _ => crosses_graphics rfl

theorem crosses_setVec4 (table : UniformTable) (semantic : String) (value : Vec4) :
    Crosses (table.setVec4 semantic value) :=
  crosses_set table semantic fun _ => crosses_graphics rfl

theorem crosses_setMat4 (table : UniformTable) (semantic : String) (value : Mat4) :
    Crosses (table.setMat4 semantic value) :=
  crosses_set table semantic fun _ => crosses_graphics rfl

theorem crosses_releasePrograms (programs : ScenePrograms) : Crosses programs.release :=
  (crosses_graphics rfl).bind fun _ => crosses_graphics rfl

theorem crosses_buildScenePrograms (settings : SceneConfig) :
    Crosses (ScenePrograms.build files settings) := by
  refine (crosses_ofExcept _).bind fun _ => ?_
  refine (crosses_buildProgram files _ _ _).bind fun ⟨_, basic⟩ => ?_
  cases basic with
  | error error => exact .done _
  | ok basic =>
    refine (crosses_buildProgram files _ _ _).bind fun ⟨_, grid⟩ => ?_
    cases grid with
    | error error => exact (crosses_graphics rfl).bind fun _ => .done _
    | ok grid =>
      refine (crosses_resolve _ (by simp [basicUniforms])).bind fun _ => ?_
      exact (crosses_resolve _ (by simp [gridUniforms])).bind fun _ => .done _

end Programs

/-- Whether nothing that a particle simulation asks for fails to be handed over. -/
structure ParticleSimulation.AllCross {σ : Type} (simulation : ParticleSimulation σ) : Prop where
  init : ∀ files particles, Crosses (simulation.init files particles)
  deinit : ∀ particles, Crosses (simulation.deinit particles)
  update : ∀ dt view particles, Crosses (simulation.update dt view particles)
  render : ∀ view viewProjection particles,
    Crosses (simulation.render view viewProjection particles)

section Scenes

variable {σ : Type} {simulation : ParticleSimulation σ} (h : simulation.AllCross)

include h

theorem crosses_create (files : Files) (particles : σ) (config : SceneConfig) :
    Crosses (Scene.create files simulation particles config) := by
  refine (crosses_buildScenePrograms files config).bind fun result => ?_
  cases result with
  | error error => exact .done _
  | ok built =>
    refine (crosses_graphics rfl).bind fun answer => ?_
    cases answer with
    | error reason => exact (crosses_releasePrograms _).bind fun _ => .done _
    | ok vertexArray =>
      refine Crosses.bind ?_ fun _ => ?_
      · refine (h.init files particles).onAbort ?_
        exact (crosses_graphics rfl).bind fun _ => crosses_releasePrograms _
      · refine (crosses_graphics rfl).bind fun _ => (crosses_graphics rfl).bind fun _ => ?_
        exact (crosses_pollError _ _ _).bind fun _ => (crosses_log _ _).bind fun _ => .done _

omit h in
theorem crosses_drawGrid (config : SceneConfig) (programs : ScenePrograms) (boxSize : Float32)
    (viewProjection : Mat4) : Crosses (Scene.drawGrid config programs boxSize viewProjection) := by
  refine (crosses_graphics rfl).bind fun _ => (crosses_setMat4 _ _ _).bind fun _ => ?_
  refine (crosses_setSingle _ _ _).bind fun _ => (crosses_setSingle _ _ _).bind fun _ => ?_
  exact (crosses_ofExcept _).bind fun _ => (crosses_graphics rfl).bind fun _ => crosses_graphics rfl

omit h in
theorem crosses_drawBox (programs : ScenePrograms) (transformation : Mat4) (color : Vec4) :
    Crosses (Scene.drawBox programs transformation color) := by
  refine (crosses_graphics rfl).bind fun _ => (crosses_setMat4 _ _ _).bind fun _ => ?_
  refine (crosses_setVec4 _ _ _).bind fun _ => ?_
  exact (crosses_graphics rfl).bind fun _ => crosses_graphics rfl

omit h in
theorem crosses_setPassState (depthTest : Bool) (blend : BlendMode) :
    Crosses (Scene.setPassState depthTest blend) :=
  (crosses_graphics rfl).bind fun _ => crosses_graphics rfl

theorem crosses_renderWith (view viewProjection : Mat4) (config : SceneConfig)
    (objects : SceneObjects) (particles : σ) :
    Crosses (Scene.renderWith simulation view viewProjection config objects particles) := by
  refine (crosses_graphics rfl).bind fun _ => (crosses_graphics rfl).bind fun _ => ?_
  refine (crosses_setPassState _ _).bind fun _ => (crosses_drawGrid _ _ _ _).bind fun _ => ?_
  refine (crosses_setPassState _ _).bind fun _ => (h.render _ _ _).bind fun _ => ?_
  refine (crosses_graphics rfl).bind fun _ => (crosses_setPassState _ _).bind fun _ => ?_
  refine (crosses_drawBox _ _ _).bind fun _ => (crosses_drawBox _ _ _).bind fun _ => ?_
  exact (crosses_graphics rfl).bind fun _ => (crosses_pollError _ _ _).bind fun _ => .done _

theorem crosses_deinit (scene : Scene σ) : Crosses (scene.deinit simulation) := by
  unfold Scene.deinit
  split
  · exact .done _
  · refine (h.deinit _).bind fun _ => (crosses_releasePrograms _).bind fun _ => ?_
    exact (crosses_graphics rfl).bind fun _ => (crosses_log _ _).bind fun _ => .done _

omit h in
theorem crosses_reload (files : Files) (scene : Scene σ) : Crosses (scene.reload files) := by
  unfold Scene.reload
  split
  · exact .done _
  · refine (crosses_buildScenePrograms files _).bind fun result => ?_
    cases result with
    | error error => exact .done _
    | ok built =>
      dsimp only
      split
      · exact (crosses_releasePrograms _).bind fun _ => (crosses_log _ _).bind fun _ => .done _
      · exact (crosses_log _ _).bind fun _ => (crosses_releasePrograms _).bind fun _ => .done _

theorem crosses_perform (operation : SceneOperation) (scene : Scene σ) :
    Crosses (operation.perform simulation scene) := by
  cases operation with
  | update view dt =>
    change Crosses (scene.update simulation view dt)
    unfold Scene.update
    split
    · exact (h.update _ _ _).bind fun _ => .done _
    · exact .done _
  | render view viewProjection =>
    change Crosses (scene.render simulation view viewProjection)
    unfold Scene.render
    split
    · exact .done _
    · exact (crosses_renderWith h _ _ _ _ _).bind fun _ => .done _
  | reload files => exact (crosses_reload files scene).bind fun _ => .done _
  | deinit => exact crosses_deinit h scene

theorem crosses_drop (scene? : Option (Scene σ)) : Crosses (Scene.drop simulation scene?) := by
  cases scene? with
  | none => exact .done ()
  | some scene => exact (crosses_deinit h scene).bind fun _ => .done ()

end Scenes

section Particles

theorem crosses_releaseSwirl (objects? : Option SwirlObjects) :
    Crosses (Swirl.release objects?) := by
  cases objects? with
  | none => exact .done ()
  | some objects => exact (crosses_graphics rfl).bind fun _ => crosses_graphics rfl

theorem crosses_buildSwirl (files : Files) (shaders : ShaderConfig) :
    Crosses (Swirl.build files shaders) := by
  have hdisabled : ∀ reason, Crosses (Swirl.disabled reason) :=
    fun _ => (crosses_log _ _).bind fun _ => .done _
  refine (crosses_ofExcept _).bind fun _ => ?_
  refine (crosses_buildProgram files _ _ _).bind fun ⟨_, result⟩ => ?_
  cases result with
  | error error => exact hdisabled _
  | ok built =>
    refine crosses_log_when ?_
    refine (crosses_graphics rfl).bind fun answer => ?_
    cases answer with
    | error reason =>
      exact (hdisabled _).bind fun _ => (crosses_graphics rfl).bind fun _ => .done _
    | ok vertexArray =>
      exact (crosses_resolve _ (by simp [particleUniforms])).bind fun _ => .done _

theorem crosses_renderSwirl (view viewProjection : Mat4) (swirl : Swirl) :
    Crosses (swirl.render view viewProjection) := by
  unfold Swirl.render
  split
  · exact .done ()
  · refine (crosses_graphics rfl).bind fun _ => (crosses_setMat4 _ _ _).bind fun _ => ?_
    refine (crosses_setMat4 _ _ _).bind fun _ => (crosses_setSingle _ _ _).bind fun _ => ?_
    refine (crosses_setSingle _ _ _).bind fun _ => (crosses_setSingle _ _ _).bind fun _ => ?_
    refine (crosses_graphics rfl).bind fun _ => (crosses_graphics rfl).bind fun _ => ?_
    exact (crosses_graphics rfl).bind fun _ => crosses_graphics rfl

/-- Swirling particles only ask for what can be handed over. -/
theorem Swirl.allCross : Swirl.simulation.AllCross where
  init files swirl := by
    refine (crosses_buildSwirl files _).bind fun _ => (crosses_releaseSwirl _).bind fun _ => ?_
    exact (crosses_log _ _).bind fun _ => .done _
  deinit swirl := (crosses_releaseSwirl _).bind fun _ => .done _
  update dt view swirl := .done _
  render view viewProjection swirl := (crosses_renderSwirl _ _ _).bind fun _ => .done _

end Particles

/-- A run of the engine's clients: builds of programs, lookups and settings of uniforms, scenes and
swirling particles, and all else that is done with owned objects, in any order. -/
inductive ClientProgram : {α : Type} → Action α → Prop where
  | done {α : Type} (result : α) : ClientProgram (.done result)
  | bind {α β : Type} {program : Action α} {next : α → Action β} :
      ClientProgram program → (∀ result, ClientProgram (next result)) →
        ClientProgram (program.bind next)
  | call (call : GraphicsCall) (plain : call.looksUp = false) :
      ClientProgram (Action.graphics call)
  | build (files : Files) (config : ShaderConfig) (sources : ProgramSources)
      (buffer : SourceBuffer) : ClientProgram (buildProgram files config sources buffer)
  | relink (program : ProgramHandle) : ClientProgram (linkProgram program)
  | resolve (program : ProgramHandle) (bindings : List UniformBinding)
      (names : ∀ binding ∈ bindings, binding.name.contains '\x00' = false) :
      ClientProgram (UniformTable.resolve program bindings)
  | setSingle (table : UniformTable) (semantic : String) (value : Float32) :
      ClientProgram (table.setSingle semantic value)
  | setVec4 (table : UniformTable) (semantic : String) (value : Vec4) :
      ClientProgram (table.setVec4 semantic value)
  | setMat4 (table : UniformTable) (semantic : String) (value : Mat4) :
      ClientProgram (table.setMat4 semantic value)
  | create {σ : Type} (files : Files) (simulation : ParticleSimulation σ)
      (cross : simulation.AllCross) (particles : σ) (config : SceneConfig) :
      ClientProgram (Scene.create files simulation particles config)
  | perform {σ : Type} (simulation : ParticleSimulation σ) (cross : simulation.AllCross)
      (operation : SceneOperation) (scene : Scene σ) :
      ClientProgram (operation.perform simulation scene)
  | drop {σ : Type} (simulation : ParticleSimulation σ) (cross : simulation.AllCross)
      (scene? : Option (Scene σ)) : ClientProgram (Scene.drop simulation scene?)
  | initSwirl (files : Files) (swirl : Swirl) : ClientProgram (Swirl.init files swirl)
  | renderSwirl (view viewProjection : Mat4) (swirl : Swirl) :
      ClientProgram (swirl.render view viewProjection)
  | deinitSwirl (swirl : Swirl) : ClientProgram swirl.deinit

variable {α : Type} {program : Action α}

/-- The engine's clients only ask for what can be handed over. -/
theorem ClientProgram.crosses (h : ClientProgram program) : Crosses program := by
  induction h with
  | done result => exact .done result
  | bind _ _ ih ihNext => exact ih.bind ihNext
  | call call plain =>
    refine crosses_graphics ?_
    cases call with
    | uniformLocation => contradiction
    | _ => rfl
  | build files config sources buffer => exact crosses_buildProgram files config sources buffer
  | relink program => exact crosses_linkProgram program
  | resolve program bindings names => exact crosses_resolve program names
  | setSingle table semantic value => exact crosses_setSingle table semantic value
  | setVec4 table semantic value => exact crosses_setVec4 table semantic value
  | setMat4 table semantic value => exact crosses_setMat4 table semantic value
  | create files simulation cross particles config =>
    exact crosses_create cross files particles config
  | perform simulation cross operation scene => exact crosses_perform cross operation scene
  | drop simulation cross scene? => exact crosses_drop cross scene?
  | initSwirl files swirl => exact Swirl.allCross.init files swirl
  | renderSwirl view viewProjection swirl => exact crosses_renderSwirl view viewProjection swirl
  | deinitSwirl swirl => exact Swirl.allCross.deinit swirl

/-- The raw runs of a client are the translations of its runs on the device, and end alike. A raw run
is a translation of only one of them, and its raw calls are those of each call in order. -/
theorem native_refines_graphics (hclient : ClientProgram program)
    (raw : List (Exchange (Effects Native))) (outcome : Except Abort α) :
    (Yields program.native raw outcome ↔
      ∃ exchanges, Yields program exchanges outcome ∧ Translates exchanges raw) ∧
    ∀ exchanges, Yields program exchanges outcome → Translates exchanges raw →
      (callTrace raw).map Exchange.request =
          (deviceTrace exchanges).flatMap (fun exchange => exchange.request.raw) ∧
        ∀ others ending, Yields program others ending → Translates others raw →
          others = exchanges ∧ ending = outcome := by
  refine ⟨⟨hclient.crosses.exists_translates, ?_⟩, ?_⟩
  · rintro ⟨exchanges, hyields, htranslates⟩
    exact htranslates.yields hyields
  · intro exchanges hyields htranslates
    exact ⟨htranslates.map_request, fun others ending hending hother =>
      htranslates.unique hyields hother hending⟩

/-- A native library with no programs left answers zero for one. The build is then refused it as on a
device that gives a reason, and deletes its shaders. -/
theorem native_refines_graphics_refused :
    ∃ (program : Action (BuildStep ProgramBuild)) (raw : List (Exchange (Effects Native)))
        (exchanges : List (Exchange (Effects Graphics))) (step : BuildStep ProgramBuild),
      ClientProgram program ∧ Yields program.native raw (.ok step) ∧
        step.result = .error ⟨.program, "Unable to create Program object"⟩ ∧
        Yields program exchanges (.ok step) ∧ Translates exchanges raw ∧
        (callTrace raw).map Exchange.request =
          (deviceTrace exchanges).flatMap fun exchange => exchange.request.raw := by
  let program := buildProgram (fun _ => .absent) {} ⟨⟨"point.vert"⟩, none, some ⟨"point.frag"⟩⟩
    ⟨"", 64⟩
  let world : World := { device := { script := { programsLeft := some 0 } } }
  have hclient : ClientProgram program := .build _ _ _ _
  obtain ⟨raw, hraw⟩ := yields_run (World.answerOther World.answerNative) program.native world
  have hrun : ((program.native.run (World.answerOther World.answerNative) world).1.map
      BuildStep.result) = .ok (.error ⟨.program, "Unable to create Program object"⟩) := by
    rfl
  generalize (program.native.run (World.answerOther World.answerNative) world).1 = outcome
    at hraw hrun
  obtain ⟨hiff, hall⟩ := native_refines_graphics hclient raw outcome
  obtain ⟨exchanges, hyields, htranslates⟩ := hiff.mp hraw
  cases outcome with
  | error cause => contradiction
  | ok step =>
    exact ⟨program, raw, exchanges, step, hclient, hraw, Except.ok.inj hrun, hyields, htranslates,
      (hall exchanges hyields htranslates).1⟩

end Shaderbox
