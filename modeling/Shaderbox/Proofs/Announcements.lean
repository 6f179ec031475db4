import Shaderbox.Proofs.SceneCustody
import Shaderbox.Proofs.SwirlObjects

/-!
# The calls of a simulation, announced

A simulation that announces what it is called for tells the observer first and does the same then.
What a scene asks of others than the device and the log is what its simulation asks: for the
initialization when the scene is created, and for each operation on a live scene what that one calls
the simulation for.
-/

namespace Shaderbox

open Interaction

variable {σ : Type}

/-- A simulation that tells the observer each time it is called, before anything else. -/
def ParticleSimulation.announced (simulation : ParticleSimulation σ) : ParticleSimulation σ where
  init files particles := do
    Action.observe .particlesInit
    simulation.init files particles
  deinit particles := do
    Action.observe .particlesDeinit
    simulation.deinit particles
  update dt view particles := do
    Action.observe (.particlesUpdate dt view)
    simulation.update dt view particles
  render view viewProjection particles := do
    Action.observe (.particlesRender view viewProjection)
    simulation.render view viewProjection particles
  boxSize := simulation.boxSize
  fieldDimensions := simulation.fieldDimensions

section Unheard

/-- Leave a request out if it announces a call of the simulation. -/
def Request.unheard : (request : Request Graphics) → Action request.Answer
  | .observe .particlesInit => .done ()
  | .observe .particlesDeinit => .done ()
  | .observe (.particlesUpdate ..) => .done ()
  | .observe (.particlesRender ..) => .done ()
  | request => Interaction.request (I := Effects Graphics) request

/-- A program without announcements of calls of the simulation. -/
def Action.unheard {α : Type} (program : Action α) : Action α :=
  program.interpret Request.unheard

theorem Action.unheard_bind {α β : Type} (program : Action α) (next : α → Action β) :
    unheard (program.bind next) = (unheard program).bind fun result => unheard (next result) := by
  unfold unheard
  exact interpret_bind _ program next

theorem Request.unheard_neverAborts (request : Request Graphics) :
    request.unheard.NeverAborts := by
  intro exchanges cause hyields
  unfold Request.unheard at hyields
  split at hyields
  · cases hyields
  · cases hyields
  · cases hyields
  · cases hyields
  · cases hyields with
    | ask _ _ answer hdone => cases hdone

/-- What is to be done on an abort concerns only the part of a sequence that may abort. -/
theorem onAbort_bind {α β : Type} {program : Action β} {next : β → Action α}
    (h : program.NeverAborts) (cleanUp : Action Unit) :
    (program.bind next).onAbort cleanUp =
      program.bind fun result => (next result).onAbort cleanUp := by
  induction program with
  | done result => rfl
  | abort cause => exact absurd (.abort cause) (h [] cause)
  | ask request resume ih =>
    refine congrArg (Interaction.ask request) (funext fun answer => ih answer ?_)
    intro exchanges cause hyields
    exact h _ cause (.ask request resume answer hyields)

theorem Action.unheard_onAbort {α : Type} (program : Action α) (cleanUp : Action Unit) :
    unheard (program.onAbort cleanUp) = (unheard program).onAbort (unheard cleanUp) := by
  induction program with
  | done result => rfl
  | abort cause =>
    rw [Interaction.onAbort]
    change _ = Interaction.onAbort (.abort cause) (unheard cleanUp)
    rw [Interaction.onAbort]
    split
    · exact unheard_bind _ _
    · rfl
  | ask request resume ih =>
    have hask (next : request.Answer → Action α) :
        unheard (.ask request next) = request.unheard.bind fun answer => unheard (next answer) :=
      rfl
    rw [Interaction.onAbort, hask, hask, onAbort_bind request.unheard_neverAborts]
    exact congrArg _ (funext ih)

variable (files : Files) (simulation : ParticleSimulation σ)

/-- Announcing the calls of its simulation adds to the creation of a scene the announcements and
nothing else. -/
theorem unheard_create_announced (particles : σ) (config : SceneConfig) :
    Action.unheard (Scene.create files simulation.announced particles config) =
      Action.unheard (Scene.create files simulation particles config) := by
  have hinit : Action.unheard (simulation.announced.init files particles) =
      Action.unheard (simulation.init files particles) := rfl
  unfold Scene.create
  simp only [bind_eq, Action.unheard_bind]
  refine congrArg _ (funext fun result => ?_)
  cases result with
  | error error => rfl
  | ok built =>
    simp only [Action.unheard_bind]
    refine congrArg _ (funext fun answer => ?_)
    cases answer with
    | error reason => rfl
    | ok array =>
      simp only [Action.unheard_bind, Action.unheard_onAbort, hinit]
      rfl

/-- Announcing the calls of its simulation adds to what is done with a scene the announcements and
nothing else. -/
theorem unheard_perform_announced (operation : SceneOperation) (scene : Scene σ) :
    Action.unheard (operation.perform simulation.announced scene) =
      Action.unheard (operation.perform simulation scene) := by
  obtain ⟨config, objects, particles, findings⟩ := scene
  cases objects with
  | none => cases operation <;> rfl
  | some objects =>
    cases operation with
    | update view dt => rfl
    | render view viewProjection =>
      have hrender : Action.unheard (simulation.announced.render view viewProjection particles) =
        Action.unheard (simulation.render view viewProjection particles) := rfl
      unfold SceneOperation.perform Scene.render Scene.renderWith
      simp only [bind_eq, Action.unheard_bind, hrender]
      rfl
    | reload files => rfl
    | deinit => rfl

end Unheard

section Words

/-- Whether a simulation asks of others than the device and the log just what is given for each of
its calls. -/
structure SpeaksAs (simulation : ParticleSimulation σ)
    (say : Observation → List (Request Graphics)) : Prop where
  init : ∀ files particles, Says (simulation.init files particles) (say .particlesInit)
  deinit : ∀ particles, Says (simulation.deinit particles) (say .particlesDeinit)
  update : ∀ dt view particles,
    Says (simulation.update dt view particles) (say (.particlesUpdate dt view))
  render : ∀ view viewProjection particles,
    Says (simulation.render view viewProjection particles)
      (say (.particlesRender view viewProjection))

variable {simulation : ParticleSimulation σ} {say : Observation → List (Request Graphics)}

/-- What an operation on a live scene calls the simulation for. -/
def SceneOperation.observation? : SceneOperation → Option Observation
  | .update view dt => some (.particlesUpdate dt view)
  | .render view viewProjection => some (.particlesRender view viewProjection)
  | .reload _ => none
  | .deinit => some .particlesDeinit

/-- The simulation is initialized when a scene is created, and not if that fails. -/
theorem speaks_create (hspeaks : SpeaksAs simulation say) (files : Files) (particles : σ)
    (config : SceneConfig) :
    Speaks (Scene.create files simulation particles config) fun asked result =>
      asked = if result.isOk then say .particlesInit else [] := by
  refine (quiet_buildScenePrograms files config).speaks_bind fun result => ?_
  cases result with
  | error error => exact speaks_done rfl
  | ok built =>
    refine (quiet_graphics _).speaks_bind fun answer => ?_
    cases answer with
    | error reason => exact (quiet_releasePrograms _).speaks_bind fun _ => speaks_done rfl
    | ok array =>
      refine (Speaks.onAbort (hspeaks.init files particles) _).bind fun _ next hinit => ?_
      refine (quiet_graphics _).speaks_bind fun _ => (quiet_graphics _).speaks_bind fun _ => ?_
      refine (quiet_pollError _ _ _).speaks_bind fun _ => (quiet_log _ _).speaks_bind fun _ => ?_
      refine speaks_done ?_
      rw [hinit, List.append_nil]
      rfl

theorem quiet_reload (files : Files) (scene : Scene σ) : Quiet (scene.reload files) := by
  obtain ⟨config, objects, particles, findings⟩ := scene
  cases objects with
  | none => exact quiet_done _
  | some objects =>
    refine (quiet_buildScenePrograms files config).bind fun result => ?_
    cases result with
    | error error => exact quiet_done _
    | ok built =>
      dsimp only
      split
      · exact (quiet_releasePrograms _).bind fun _ => (quiet_log _ _).bind fun _ => quiet_done _
      · refine (quiet_log _ _).bind fun _ => (quiet_releasePrograms _).bind fun _ => ?_
        exact quiet_done _

theorem says_renderWith (hspeaks : SpeaksAs simulation say) (view viewProjection : Mat4)
    (config : SceneConfig) (objects : SceneObjects) (particles : σ) :
    Says (Scene.renderWith simulation view viewProjection config objects particles)
      (say (.particlesRender view viewProjection)) := by
  have hstate (depthTest : Bool) (blend : BlendMode) :
      Quiet (Scene.setPassState depthTest blend) :=
    (quiet_graphics _).bind fun _ => quiet_graphics _
  have hgrid (boxSize : Float32) :
      Quiet (Scene.drawGrid config objects.programs boxSize viewProjection) := by
    refine (quiet_graphics _).bind fun _ => (quiet_setMat4 _ _ _).bind fun _ => ?_
    refine (quiet_setSingle _ _ _).bind fun _ => (quiet_setSingle _ _ _).bind fun _ => ?_
    refine (quiet_ofExcept _).bind fun _ => (quiet_graphics _).bind fun _ => ?_
    exact quiet_graphics _
  have hbox (transformation : Mat4) (color : Vec4) :
      Quiet (Scene.drawBox objects.programs transformation color) := by
    refine (quiet_graphics _).bind fun _ => (quiet_setMat4 _ _ _).bind fun _ => ?_
    refine (quiet_setVec4 _ _ _).bind fun _ => (quiet_graphics _).bind fun _ => ?_
    exact quiet_graphics _
  refine (quiet_graphics _).speaks_bind fun _ => (quiet_graphics _).speaks_bind fun _ => ?_
  refine (hstate _ _).speaks_bind fun _ => (hgrid _).speaks_bind fun _ => ?_
  refine (hstate _ _).speaks_bind fun _ => ?_
  refine (hspeaks.render view viewProjection particles).bind_quiet fun next => ?_
  refine (quiet_graphics _).bind fun _ => (hstate _ _).bind fun _ => ?_
  refine (hbox _ _).bind fun _ => (hbox _ _).bind fun _ => (quiet_graphics _).bind fun _ => ?_
  exact (quiet_pollError _ _ _).bind fun _ => quiet_done _

/-- An operation on a live scene calls the simulation for what it should and for nothing else. -/
theorem says_perform (hspeaks : SpeaksAs simulation say) {scene : Scene σ}
    (hlive : scene.isLive = true) (operation : SceneOperation) :
    Says (operation.perform simulation scene) (operation.observation?.elim [] say) := by
  obtain ⟨config, objects, particles, findings⟩ := scene
  cases objects with
  | none => contradiction
  | some objects =>
    cases operation with
    | update view dt => exact (hspeaks.update dt view particles).bind_quiet fun _ => quiet_done _
    | render view viewProjection =>
      refine (says_renderWith hspeaks view viewProjection config objects particles).bind_quiet
        fun _ => ?_
      exact quiet_done _
    | reload files => exact (quiet_reload files _).bind fun _ => quiet_done _
    | deinit =>
      refine (hspeaks.deinit particles).bind_quiet fun _ => ?_
      refine (quiet_releasePrograms _).bind fun _ => (quiet_graphics _).bind fun _ => ?_
      exact (quiet_log _ _).bind fun _ => quiet_done _

/-- An operation on a scene that was deinitialized does nothing. -/
theorem perform_eq_done {scene : Scene σ} (hobjects : scene.objects = none)
    (operation : SceneOperation) : operation.perform simulation scene = .done scene := by
  obtain ⟨config, _, particles, findings⟩ := scene
  obtain rfl := hobjects
  cases operation <;> rfl

end Words

section Swirl

/-- The particles keep account of their objects. -/
theorem Swirl.keepsAccount : KeepsAccount Swirl.simulation Swirl.owned where
  update _ _ _ := custody_done rfl
  render view viewProjection swirl :=
    (Swirl.custody_render view viewProjection swirl).bind fun _ => custody_done rfl
  deinit := Swirl.custody_deinit

/-- The particles ask nothing of others than the device and the log. -/
theorem Swirl.speaksAs_nothing : SpeaksAs Swirl.simulation fun _ => [] where
  init := Swirl.quiet_init
  deinit := Swirl.quiet_deinit
  update _ _ _ := quiet_done _
  render view viewProjection swirl :=
    (Swirl.quiet_render view viewProjection swirl).bind fun _ => quiet_done _

namespace Swirl

/-- Creating a scene with the particles asks nothing of others than the device and the log. -/
theorem quiet_create (files : Files) (particles : Swirl) (config : SceneConfig) :
    Quiet (Scene.create files simulation particles config) := by
  intro exchanges result hyields
  have hasked := speaks_create speaksAs_nothing files particles config _ _ hyields
  exact hasked.trans (ite_self _)

/-- Nor does anything that is done with a scene with the particles. -/
theorem quiet_perform (operation : SceneOperation) (scene : Scene Swirl) :
    Quiet (operation.perform simulation scene) := by
  cases hlive : scene.isLive with
  | true =>
    have hsays := says_perform speaksAs_nothing hlive operation
    cases hobservation : operation.observation? with
    | none => rwa [hobservation] at hsays
    | some observation => rwa [hobservation] at hsays
  | false =>
    rw [perform_eq_done (by simpa [Scene.isLive] using hlive)]
    exact quiet_done _

theorem quiet_drop (scene? : Option (Scene Swirl)) : Quiet (Scene.drop simulation scene?) := by
  cases scene? with
  | none => exact quiet_done _
  | some scene => exact (quiet_perform .deinit scene).bind fun _ => quiet_done _

end Swirl

variable {simulation : ParticleSimulation σ} {held : σ → Multiset DeviceObject}

/-- Telling the observer leaves nothing in the trace. -/
theorem ensures_observe_bind {α : Type} {observation : Observation}
    {next : observation.Answer → Action α} {spec : List (Exchange Graphics) → α → Prop}
    (h : ∀ answer, Ensures (next answer) spec) :
    Ensures ((Action.observe observation).bind next) spec := by
  intro exchanges outcome hyields
  cases hyields with
  | ask _ _ answer hrest =>
    obtain ⟨result, houtcome, hspec⟩ := h answer _ _ hrest
    exact ⟨result, houtcome, hspec⟩

/-- A simulation that announces its calls keeps account as before. -/
theorem KeepsAccount.announced (h : KeepsAccount simulation held) :
    KeepsAccount simulation.announced held where
  update dt view particles := ensures_observe_bind fun _ => h.update dt view particles
  render view viewProjection particles :=
    ensures_observe_bind fun _ => h.render view viewProjection particles
  deinit particles := ensures_observe_bind fun _ => h.deinit particles

/-- Of a simulation that announces its calls and asks nothing else, just the announcements are
heard. -/
theorem SpeaksAs.announced (h : SpeaksAs simulation fun _ => []) :
    SpeaksAs simulation.announced fun observation => [.observe observation] where
  init files particles := (says_observe _).bind_quiet fun _ => h.init files particles
  deinit particles := (says_observe _).bind_quiet fun _ => h.deinit particles
  update dt view particles := (says_observe _).bind_quiet fun _ => h.update dt view particles
  render view viewProjection particles :=
    (says_observe _).bind_quiet fun _ => h.render view viewProjection particles

end Swirl

end Shaderbox
