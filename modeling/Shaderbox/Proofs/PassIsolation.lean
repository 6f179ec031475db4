import Shaderbox.Proofs.DrawSettings
import Shaderbox.Proofs.FramePasses
import Shaderbox.Proofs.SceneLifetime

/-!
# The passes of a frame are isolated

Every pass of a frame asks for all that its draw calls depend on. So it makes no difference what was
asked for before the frame, nor what the simulation asked for. The simulation is called with nothing
left over from the grid, and behind the frame neither a program nor a vertex array is bound.

A device comes out with what is asked for as long as the vertex array of the scene exists and its
programs were linked. In the place of one that was not linked it uses what was in use before, and
all else is as it should be.
-/

namespace Shaderbox

open Interaction

section Turns

variable {usable : Nat → Bool} {settings : DrawSettings}

/-- Setting uniforms does not ask for anything that draw calls depend on here. -/
theorem asks_uploads (turn : Turn) : Asks usable settings turn.uploads [] settings := by
  obtain ⟨program, bindings, table, values, drawing⟩ := turn
  unfold Turn.uploads
  induction values with
  | nil => exact asks_nil
  | cons first rest ih =>
    obtain ⟨semantic, value⟩ := first
    have hfirst : Asks usable settings ((table.get? semantic).map value.upload).toList []
        settings := by
      cases table.get? semantic with
      | none => exact asks_nil
      | some location => cases value <;> exact ⟨rfl, rfl⟩
    exact hfirst.append ih

/-- A turn that draws lines asks for its program in front of that, and for none in the end. -/
theorem asks_turn {turn : Turn} {count : Int} (hdrawing : turn.drawing = [.drawLines 0 count]) :
    Asks usable settings turn.calls
      [({ settings with program := programInUse usable turn.program.id.number settings.program },
        .drawArrays NativeCode.lines 0 count)]
      { settings with program := 0 } := by
  unfold Turn.calls
  rw [hdrawing]
  exact (asks_useProgram turn.program.id).append <|
    ((asks_uploads turn).append (asks_drawLines 0 count)).append asks_useNone

end Turns

namespace SceneObjects

variable (objects : SceneObjects)

/-- What the grid is drawn with, in a frame that begins with the given settings: the grid program,
the scene's vertex array and the depth test, without blending. -/
def gridSettings (entry : DrawSettings) : DrawSettings :=
  { entry with
    program := objects.programs.grid.id.number
    vertexArray := objects.vertexArray.id.number
    depthTest := true
    blending := false }

/-- What the simulation begins with: no program, the scene's vertex array, no depth test, and the
source added by its opacity. -/
def simulationSettings : DrawSettings where
  program := 0
  vertexArray := objects.vertexArray.id.number
  depthTest := false
  blending := true
  equation := NativeCode.add
  source := NativeCode.sourceAlpha
  destination := NativeCode.one

/-- What the boxes are drawn with: the basic program, the scene's vertex array and the depth test,
covering what is there by their opacity. -/
def boxSettings : DrawSettings where
  program := objects.programs.basic.id.number
  vertexArray := objects.vertexArray.id.number
  depthTest := true
  blending := true
  equation := NativeCode.add
  source := NativeCode.sourceAlpha
  destination := NativeCode.oneMinusSourceAlpha

end SceneObjects

section Frame

variable {usable : Nat → Bool} {settings : DrawSettings} (config : SceneConfig)
  (objects : SceneObjects) (boxSize : Float32) (dimensions : Vec3) (viewProjection : Mat4)
  (count : Int)

/-- Everything is asked for that the grid is to be drawn with, and all that the simulation begins
with. -/
theorem asks_openingCalls :
    Asks usable settings (Scene.openingCalls config objects boxSize viewProjection count)
      [({ objects.gridSettings settings with
          program := programInUse usable objects.programs.grid.id.number settings.program },
        .drawArrays NativeCode.lines 0 count)]
      objects.simulationSettings :=
  ((asks_clear.append <| (asks_bindVertexArray objects.vertexArray.id).append <|
    (asks_setDepthTest true).append asks_blendDisabled).append (asks_turn rfl)).append
      ((asks_setDepthTest false).append asks_blendAdditive)

/-- Everything is asked for that both boxes are to be drawn with, and that nothing stays bound. -/
theorem asks_closingCalls :
    Asks usable settings (Scene.closingCalls objects boxSize dimensions viewProjection)
      [({ objects.boxSettings with
          program := programInUse usable objects.programs.basic.id.number settings.program },
        .drawArrays NativeCode.lines 0 Scene.boxVertexCount),
        ({ objects.boxSettings with
          program := programInUse usable objects.programs.basic.id.number 0 },
        .drawArrays NativeCode.lines 0 Scene.boxVertexCount)]
      { objects.boxSettings with program := 0, vertexArray := 0 } :=
  ((((asks_bindVertexArray objects.vertexArray.id).append <|
    (asks_setDepthTest true).append asks_blendAlpha).append (asks_turn rfl)).append
      (asks_turn rfl)).append (asks_bindNone.append asks_lastError)

end Frame

/-- What is asked for in front of the simulation, whatever was asked for before the frame: the grid
is all that is drawn, with its settings, and in the end it is the settings of the simulation. -/
structure AsksForGrid (objects : SceneObjects) (count : Int) (calls : List NativeCall) : Prop where
  drawn : ∀ before : DrawSettings, before.draws calls =
    [(objects.gridSettings before, .drawArrays NativeCode.lines 0 count)]
  final : ∀ before : DrawSettings, before.askedBy calls = objects.simulationSettings

/-- What is asked for behind the simulation, whatever was asked for before: two boxes are all that
is drawn, with their settings, and in the end nothing is bound. -/
structure AsksForBoxes (objects : SceneObjects) (calls : List NativeCall) : Prop where
  drawn : ∀ before : DrawSettings, before.draws calls =
    [(objects.boxSettings, .drawArrays NativeCode.lines 0 Scene.boxVertexCount),
      (objects.boxSettings, .drawArrays NativeCode.lines 0 Scene.boxVertexCount)]
  final : ∀ before : DrawSettings, before.askedBy calls =
    { objects.boxSettings with program := 0, vertexArray := 0 }

section Frame

variable (config : SceneConfig) (objects : SceneObjects) (boxSize : Float32) (dimensions : Vec3)
  (viewProjection : Mat4) (count : Int)

theorem asksForGrid :
    AsksForGrid objects count
      ((Scene.openingCalls config objects boxSize viewProjection count).flatMap
        GraphicsCall.raw) := by
  have hasks (before : DrawSettings) := (@asks_openingCalls (fun _ => true) before config objects
    boxSize viewProjection count).unrefused
  refine ⟨fun before => ?_, fun before => (hasks before).2⟩
  rw [(hasks before).1, programInUse_of_usable rfl]
  rfl

theorem asksForBoxes :
    AsksForBoxes objects
      ((Scene.closingCalls objects boxSize dimensions viewProjection).flatMap
        GraphicsCall.raw) := by
  have hasks (before : DrawSettings) := (@asks_closingCalls (fun _ => true) before objects
    boxSize dimensions viewProjection).unrefused
  refine ⟨fun before => ?_, fun before => (hasks before).2⟩
  rw [(hasks before).1, programInUse_of_usable rfl, programInUse_of_usable rfl]
  rfl

end Frame

/-- What raw calls leave of the objects of a scene: its vertex array can still be bound behind calls
that do not delete it, and each of its programs can be used just if it could be, behind calls that
neither link nor delete it. -/
structure DrawDevice.Keeps {State : Type} (device : DrawDevice State) (objects : SceneObjects)
    (state : State) (trace : List (Exchange Native)) : Prop where
  vertexArray :
    (∀ exchange ∈ trace, exchange.request ≠ .deleteVertexArray objects.vertexArray.id.number) →
    device.bindable state objects.vertexArray.id.number = true →
    device.bindable (device.after state trace) objects.vertexArray.id.number = true
  programs : ∀ program ∈ [objects.programs.grid.id.number, objects.programs.basic.id.number],
    (∀ exchange ∈ trace, exchange.request ≠ .linkProgram program ∧
      exchange.request ≠ .deleteProgram program) →
    device.usable (device.after state trace) program = device.usable state program

/-- What a device draws in front of the simulation and has in force then, from a state on in which
the vertex array of the scene exists. The grid is drawn with its settings, but with the program that
was in use before if the grid program was not linked. The vertex array still exists then, and the
same programs can be used. -/
structure DrawDevice.DrawsGrid {State : Type} (device : DrawDevice State) (objects : SceneObjects)
    (count : Int) (entry : State) (trace : List (Exchange Native)) : Prop where
  drawn : device.drawn entry trace =
    [({ objects.gridSettings (device.settings entry) with
        program := programInUse (device.usable entry) objects.programs.grid.id.number
          (device.settings entry).program },
      .drawArrays NativeCode.lines 0 count)]
  inForce : device.settings (device.after entry trace) = objects.simulationSettings
  vertexArray :
    device.bindable (device.after entry trace) objects.vertexArray.id.number = true
  usable : device.usable (device.after entry trace) = device.usable entry

/-- What a device draws behind the simulation and has in force then, from a state on in which the
vertex array of the scene exists. The boxes are drawn with their settings. If the basic program was
not linked, the first box is drawn with the program that was in use before, and the second one with
none. -/
structure DrawDevice.DrawsBoxes {State : Type} (device : DrawDevice State) (objects : SceneObjects)
    (left : State) (trace : List (Exchange Native)) : Prop where
  drawn : device.drawn left trace =
    [({ objects.boxSettings with
        program := programInUse (device.usable left) objects.programs.basic.id.number
          (device.settings left).program },
      .drawArrays NativeCode.lines 0 Scene.boxVertexCount),
      ({ objects.boxSettings with
        program := programInUse (device.usable left) objects.programs.basic.id.number 0 },
      .drawArrays NativeCode.lines 0 Scene.boxVertexCount)]
  inForce : device.settings (device.after left trace) =
    { objects.boxSettings with program := 0, vertexArray := 0 }

namespace DrawDevice

variable {State : Type} {device : DrawDevice State} {objects : SceneObjects} {state : State}

/-- On a lawful device raw calls leave of a scene what they do not touch. -/
theorem Lawful.keeps (h : device.Lawful) (objects : SceneObjects) (state : State)
    (trace : List (Exchange Native)) : device.Keeps objects state trace where
  vertexArray hkept hbindable := h.bindable_after hbindable hkept
  programs _ _ hkept := h.usable_after hkept

/-- A turn that draws lines is made of steady calls. -/
theorem steady_turn {turn : Turn} {count : Int} (hdrawing : turn.drawing = [.drawLines 0 count]) :
    ∀ call ∈ turn.calls, ∀ raw ∈ call.raw, device.Steady state raw := by
  refine Turn.forall_mem_calls ?_ (fun call hcall => ?_) ?_ ?_
  · simp [GraphicsCall.raw, Steady]
  · obtain ⟨_, value, location, -, -, rfl⟩ := Turn.mem_uploads_iff.mp hcall
    cases value <;> simp [UniformValue.upload, GraphicsCall.raw, Steady, grants]
  · simp [hdrawing, GraphicsCall.raw, Steady, grants]
  · simp [GraphicsCall.raw, Steady]

section Frame

variable (hbindable : device.bindable state objects.vertexArray.id.number = true)
  (config : SceneConfig) (boxSize : Float32) (dimensions : Vec3) (viewProjection : Mat4)
  (count : Int)

include hbindable

theorem steady_openingCalls :
    ∀ raw ∈ (Scene.openingCalls config objects boxSize viewProjection count).flatMap
      GraphicsCall.raw, device.Steady state raw := by
  rw [List.forall_mem_flatMap]
  unfold Scene.openingCalls Scene.gridPreparation
  simp only [List.forall_mem_append]
  refine ⟨⟨?_, steady_turn rfl⟩, ?_⟩
  · simp [GraphicsCall.raw, Steady, grants, hbindable]
  · simp [GraphicsCall.raw, Steady, grants]

theorem steady_closingCalls :
    ∀ raw ∈ (Scene.closingCalls objects boxSize dimensions viewProjection).flatMap
      GraphicsCall.raw, device.Steady state raw := by
  rw [List.forall_mem_flatMap]
  unfold Scene.closingCalls
  simp only [List.forall_mem_append]
  refine ⟨⟨⟨?_, steady_turn rfl⟩, steady_turn rfl⟩, ?_⟩
  · simp [GraphicsCall.raw, Steady, grants, hbindable]
  · simp [GraphicsCall.raw, Steady, grants]

end Frame

end DrawDevice

/-- Programs in sequence are carried out on the native library one behind the other. -/
theorem native_bind {α β : Type} (program : Action α) (next : α → Action β) :
    Action.native (program.bind next) =
      (Action.native program).bind fun result => Action.native (next result) :=
  interpret_bind (I := Effects Graphics) (J := Effects Native) Request.native program next

section Isolation

variable {σ : Type} (simulation : ParticleSimulation σ) (view viewProjection : Mat4)
  {scene : Scene σ} {objects : SceneObjects}

/-- A frame on the native library is what is drawn before the simulation, what the simulation does,
and what is drawn behind it unless the simulation aborts. -/
theorem yields_native_render (hlive : scene.objects = some objects) {count : Int}
    (hcount : scene.config.gridVertexCount = .ok count)
    {exchanges : List (Exchange (Effects Native))} {outcome : Except Abort (Scene σ)}
    (h : Yields (scene.render simulation view viewProjection).native exchanges outcome) :
    ∃ front middle back, exchanges = front ++ middle ++ back ∧
      (callTrace front).map Exchange.request =
        (Scene.openingCalls scene.config objects (simulation.boxSize scene.particles)
          viewProjection count).flatMap GraphicsCall.raw ∧
      ((∃ cause,
          Yields (simulation.render view viewProjection scene.particles).native middle
            (.error cause) ∧
          back = [] ∧ outcome = .error cause) ∨
        ∃ particles,
          Yields (simulation.render view viewProjection scene.particles).native middle
            (.ok particles) ∧
          outcome = .ok { scene with particles } ∧
          (callTrace back).map Exchange.request =
            (Scene.closingCalls objects (simulation.boxSize particles)
              (simulation.fieldDimensions particles) viewProjection).flatMap GraphicsCall.raw) := by
  rw [Scene.render_eq simulation view viewProjection hlive, native_bind] at h
  have hopening := (Scene.issues_openFrame scene.config objects
    (simulation.boxSize scene.particles) viewProjection hcount).native
      fun call hcall => GraphicsCall.looksUp_of_inFrame
        (Scene.inFrame_of_mem_openingCalls _ _ _ _ _ call hcall)
  rcases yields_bind_iff.mp h with ⟨cause, hfront, -⟩ | ⟨front, _, behind, rfl, hfront, hbehind⟩
  · obtain ⟨-, _, hends⟩ := hopening.yields hfront
    cases hends
  · have hfrontCalls := (hopening.yields hfront).1
    rw [native_bind] at hbehind
    rcases yields_bind_iff.mp hbehind with
      ⟨cause, hmiddle, rfl⟩ | ⟨middle, particles, back, rfl, hmiddle, hback⟩
    · exact ⟨front, behind, [], by rw [List.append_nil], hfrontCalls,
        .inl ⟨cause, hmiddle, rfl, rfl⟩⟩
    · have hclosing := (Scene.issues_closeFrame objects (simulation.boxSize particles)
        (simulation.fieldDimensions particles) viewProjection).native
          fun call hcall => GraphicsCall.looksUp_of_inFrame
            (Scene.inFrame_of_mem_closingCalls _ _ _ _ call hcall)
      rw [native_bind] at hback
      rcases yields_bind_iff.mp hback with ⟨cause, hclose, -⟩ | ⟨back, _, rest, rfl, hclose, hdone⟩
      · obtain ⟨-, _, hends⟩ := hclosing.yields hclose
        cases hends
      · cases hdone
        refine ⟨front, middle, back, ?_, hfrontCalls,
          .inr ⟨particles, hmiddle, rfl, (hclosing.yields hclose).1⟩⟩
        rw [List.append_nil, List.append_assoc]

/-- On a lawful device the grid is drawn as it should be, and the simulation has its settings. -/
theorem DrawDevice.Lawful.drawsGrid {State : Type} {device : DrawDevice State}
    (hdevice : device.Lawful) {entry : State} {config : SceneConfig} {boxSize : Float32}
    {count : Int} {trace : List (Exchange Native)}
    (hentry : device.bindable entry objects.vertexArray.id.number = true)
    (hcalls : trace.map Exchange.request =
      (Scene.openingCalls config objects boxSize viewProjection count).flatMap
        GraphicsCall.raw) :
    device.DrawsGrid objects count entry trace := by
  have hsteady : ∀ exchange ∈ trace, device.Steady entry exchange.request := by
    rw [← List.forall_mem_map, hcalls]
    exact steady_openingCalls hentry _ _ _ _
  obtain ⟨hdrawn, hinForce⟩ := hdevice.carriesOut hcalls hsteady
    (asks_openingCalls config objects boxSize viewProjection count)
  exact ⟨hdrawn, hinForce, hdevice.bindable_after_steady hsteady hentry,
    hdevice.usable_after_steady hsteady⟩

/-- On a lawful device the boxes are drawn as they should be, and nothing stays bound. -/
theorem DrawDevice.Lawful.drawsBoxes {State : Type} {device : DrawDevice State}
    (hdevice : device.Lawful) {left : State} {boxSize : Float32} {dimensions : Vec3}
    {trace : List (Exchange Native)}
    (hleft : device.bindable left objects.vertexArray.id.number = true)
    (hcalls : trace.map Exchange.request =
      (Scene.closingCalls objects boxSize dimensions viewProjection).flatMap GraphicsCall.raw) :
    device.DrawsBoxes objects left trace := by
  have hsteady : ∀ exchange ∈ trace, device.Steady left exchange.request := by
    rw [← List.forall_mem_map, hcalls]
    exact steady_closingCalls hleft _ _ _
  obtain ⟨hdrawn, hinForce⟩ := hdevice.carriesOut hcalls hsteady
    (asks_closingCalls objects boxSize dimensions viewProjection)
  exact ⟨hdrawn, hinForce⟩

/-- Every frame of a live scene on the native library is what the scene draws first, then all that
the simulation does, and what the scene draws behind it unless the simulation aborts. Whatever was
asked for before, the scene asks for all that the grid and the boxes are to be drawn with, for all
that the simulation begins with, and for nothing to stay bound. On every device that does what is
documented this is what the grid is drawn with and the simulation begins with, in whatever state the
frame begins, and what the boxes are drawn with, in whatever state the simulation leaves the device.
For that the vertex array of the scene must exist and its programs must be linked, and behind a
simulation that does not delete or link them this is still so. The scene draws nothing else. -/
theorem render_isolates_passes {State : Type} {device : DrawDevice State} (hdevice : device.Lawful)
    (hlive : scene.objects = some objects)
    (hgrid : scene.config.gridResolution.toNat < 2 ^ 29 - 1)
    {exchanges : List (Exchange (Effects Native))} {outcome : Except Abort (Scene σ)}
    (h : Yields (scene.render simulation view viewProjection).native exchanges outcome) :
    ∃ front middle back count, exchanges = front ++ middle ++ back ∧
      scene.config.gridVertexCount = .ok count ∧
      AsksForGrid objects count ((callTrace front).map Exchange.request) ∧
      (∀ entry, device.bindable entry objects.vertexArray.id.number = true →
        device.DrawsGrid objects count entry (callTrace front)) ∧
      (∀ state, device.Keeps objects state (callTrace middle)) ∧
      ((∃ cause,
          Yields (simulation.render view viewProjection scene.particles).native middle
            (.error cause) ∧
          back = [] ∧ outcome = .error cause) ∨
        ∃ particles,
          Yields (simulation.render view viewProjection scene.particles).native middle
            (.ok particles) ∧
          outcome = .ok { scene with particles } ∧
          AsksForBoxes objects ((callTrace back).map Exchange.request) ∧
          ∀ left, device.bindable left objects.vertexArray.id.number = true →
            device.DrawsBoxes objects left (callTrace back)) := by
  obtain ⟨count, hcount⟩ := gridVertexCount_ok hgrid
  obtain ⟨front, middle, back, hexchanges, hfront, hrest⟩ :=
    yields_native_render simulation view viewProjection hlive hcount h
  refine ⟨front, middle, back, count, hexchanges, hcount, ?_,
    fun entry hentry => hdevice.drawsGrid viewProjection hentry hfront,
    fun state => hdevice.keeps objects state _, ?_⟩
  · rw [hfront]
    exact asksForGrid _ _ _ _ _
  · refine hrest.imp id fun ⟨particles, hmiddle, houtcome, hback⟩ =>
      ⟨particles, hmiddle, houtcome, ?_, fun left hleft =>
        hdevice.drawsBoxes viewProjection hleft hback⟩
    rw [hback]
    exact asksForBoxes _ _ _ _

end Isolation

/-- A simulation that leaves behind what no pass of the scene can use. -/
def meddlingParticles : ParticleSimulation Unit where
  init _ _ := .done ()
  deinit _ := .done ()
  update _ _ _ := .done ()
  render _ _ _ := do
    Action.graphics (.setDepthTest false)
    Action.graphics (.setBlend .disabled)
    Action.graphics (.useProgram (some ⟨7⟩))
    Action.graphics (.bindVertexArray none)
  boxSize _ := 1
  fieldDimensions _ := ⟨1, 1, 1⟩

/-- The state of a plain device: the programs that can be linked, those that were, the vertex arrays
that exist, and the settings. -/
structure PlainState where
  sound : Nat → Bool
  linked : Nat → Bool
  vertexArrays : Nat → Bool
  settings : DrawSettings

/-- A device that refuses what it cannot bind and otherwise does what it is asked for. -/
def plainDevice : DrawDevice PlainState where
  step state
    | ⟨.linkProgram program, _⟩ =>
      { state with
        linked := fun other =>
          if other = program then state.sound program else state.linked other }
    | ⟨.deleteProgram program, _⟩ =>
      { state with linked := fun other => other != program && state.linked other }
    | ⟨.genVertexArray, array⟩ =>
      { state with vertexArrays := fun other => other == array || state.vertexArrays other }
    | ⟨.deleteVertexArray array, _⟩ =>
      { state with
        vertexArrays := fun other => other != array && state.vertexArrays other
        settings.vertexArray :=
          if state.settings.vertexArray = array then 0 else state.settings.vertexArray }
    | ⟨.useProgram program, _⟩ =>
      if program == 0 || state.linked program then
        { state with settings := state.settings.asked (.useProgram program) }
      else state
    | ⟨.bindVertexArray array, _⟩ =>
      if array == 0 || state.vertexArrays array then
        { state with settings := state.settings.asked (.bindVertexArray array) }
      else state
    | ⟨call, _⟩ => { state with settings := state.settings.asked call }
  settings := PlainState.settings
  usable := PlainState.linked
  bindable := PlainState.vertexArrays

theorem plainDevice_lawful : plainDevice.Lawful where
  granted state exchange hgrants := by
    obtain ⟨call, answer⟩ := exchange
    cases call with
    | useProgram => exact congrArg PlainState.settings (if_pos hgrants)
    | bindVertexArray => exact congrArg PlainState.settings (if_pos hgrants)
    | deleteVertexArray => cases hgrants
    | _ => rfl
  refused state program answer hzero hlinked := by
    change state.linked program = false at hlinked
    exact congrArg PlainState.settings (if_neg (by simp [hzero, hlinked]))
  usable_step state exchange program hlinks hdeletes := by
    obtain ⟨call, answer⟩ := exchange
    cases call with
    | linkProgram other =>
      exact if_neg fun hsame => hlinks (congrArg NativeCall.linkProgram hsame.symm)
    | deleteProgram other =>
      have hother : program ≠ other := fun hsame => hdeletes (hsame ▸ rfl)
      simp [plainDevice, hother]
    | useProgram =>
      unfold plainDevice
      dsimp only
      split <;> rfl
    | bindVertexArray =>
      unfold plainDevice
      dsimp only
      split <;> rfl
    | _ => rfl
  bindable_step state exchange array hbindable hdeletes := by
    obtain ⟨call, answer⟩ := exchange
    cases call with
    | genVertexArray => exact Bool.or_eq_true_iff.mpr (.inr hbindable)
    | deleteVertexArray other =>
      have hother : array ≠ other := fun hsame => hdeletes (hsame ▸ rfl)
      simpa [plainDevice, hother] using hbindable
    | useProgram =>
      unfold plainDevice
      dsimp only
      split <;> exact hbindable
    | bindVertexArray =>
      unfold plainDevice
      dsimp only
      split <;> exact hbindable
    | _ => exact hbindable

/-- Behind a meddling simulation, in a frame that began with another program bound, the boxes are
drawn as ever. -/
theorem render_isolates_passes_meddling :
    plainDevice.Lawful ∧ emptyScene.config.gridResolution.toNat < 2 ^ 29 - 1 ∧
      ∃ (objects : SceneObjects) (entry : PlainState)
        (front middle back : List (Exchange (Effects Native))),
        emptyScene.objects = some objects ∧ entry.settings.program = 7 ∧
        Yields (emptyScene.render meddlingParticles .identity .identity).native
          (front ++ middle ++ back) (.ok emptyScene) ∧
        Yields (meddlingParticles.render .identity .identity ()).native middle (.ok ()) ∧
        plainDevice.drawn entry (callTrace front) =
          [(objects.gridSettings entry.settings, .drawArrays NativeCode.lines 0 132)] ∧
        plainDevice.settings (plainDevice.after entry (callTrace front)) =
          objects.simulationSettings ∧
        plainDevice.drawn (plainDevice.after (plainDevice.after entry (callTrace front))
            (callTrace middle)) (callTrace back) =
          [(objects.boxSettings, .drawArrays NativeCode.lines 0 Scene.boxVertexCount),
            (objects.boxSettings, .drawArrays NativeCode.lines 0 Scene.boxVertexCount)] := by
  let objects : SceneObjects := ⟨⟨⟨⟨1⟩, "basic"⟩, ⟨[]⟩, ⟨⟨2⟩, "grid"⟩, ⟨[]⟩⟩, ⟨⟨3⟩⟩⟩
  let entry : PlainState :=
    { sound := fun _ => true
      linked := fun program => program = 1 ∨ program = 2 ∨ program = 7
      vertexArrays := fun array => array = 3
      settings := ⟨7, 0, false, true, 0, 0, 0⟩ }
  have hgrid : emptyScene.config.gridResolution.toNat < 2 ^ 29 - 1 := by decide
  have hissues : Issues (meddlingParticles.render .identity .identity ())
      [.setDepthTest false, .setBlend .disabled, .useProgram (some ⟨7⟩), .bindVertexArray none]
      none :=
    (issues_graphics _).bind fun _ => (issues_graphics _).bind fun _ =>
      (issues_graphics _).bind fun _ => issues_graphics _
  have hnative := hissues.native (by simp [GraphicsCall.looksUp])
  obtain ⟨exchanges, hyields⟩ := yields_run (World.answerOther World.answerNative)
    (emptyScene.render meddlingParticles .identity .identity).native {}
  obtain ⟨front, middle, back, count, rfl, hcount, -, hfront, hkeeps, hrest⟩ :=
    render_isolates_passes meddlingParticles .identity .identity plainDevice_lawful
      (show emptyScene.objects = some objects from rfl) hgrid hyields
  have hcells : emptyScene.config.gridVertexCount = .ok 132 := by
    unfold SceneConfig.gridVertexCount
    rw [Number.signedWord_of_le (by decide)]
    rfl
  obtain rfl := Except.ok.inj (hcells.symm.trans hcount)
  obtain ⟨hdrawn, hinForce, harray, husable⟩ := hfront entry rfl
  rcases hrest with ⟨cause, hmiddle, -⟩ | ⟨particles, hmiddle, houtcome, -, hback⟩
  · obtain ⟨-, _, hends⟩ := hnative.yields hmiddle
    cases hends
  · have huntouched : ∀ call ∈ (callTrace middle).map Exchange.request,
        (call ≠ NativeCall.linkProgram 1 ∧ call ≠ NativeCall.deleteProgram 1) ∧
          call ≠ NativeCall.deleteVertexArray 3 := by
      rw [(hnative.yields hmiddle).1]
      simp [GraphicsCall.raw]
    rw [List.forall_mem_map] at huntouched
    obtain ⟨hkeptArray, hkeptPrograms⟩ := hkeeps (plainDevice.after entry (callTrace front))
    have hboxes := (hback _ (hkeptArray (fun exchange hexchange =>
      (huntouched exchange hexchange).2) harray)).drawn
    have hbasic := (hkeptPrograms 1 (by simp [objects]) fun exchange hexchange =>
      (huntouched exchange hexchange).1).trans (congrFun husable 1)
    have hlinked := hbasic.trans (rfl : entry.linked 1 = true)
    rw [programInUse_of_usable hlinked, programInUse_of_usable hlinked] at hboxes
    rw [houtcome] at hyields
    exact ⟨plainDevice_lawful, hgrid, objects, entry, front, middle, back, rfl, rfl, hyields,
      hmiddle, hdrawn, hinForce, hboxes⟩

end Shaderbox
