import Shaderbox.Demo.App
import Shaderbox.Proofs.CameraBounds
import Shaderbox.Proofs.RuntimeConduct
import Shaderbox.Proofs.SceneLifetime

/-!
# The demo releases everything

The demo owns what its scene owns, and it keeps the ledger: it has a scene only while the window is
open. So every run of the demo, with whatever callbacks and whatever fails, calls the device only
while its context is current, deletes every object once before the context goes, and drops every
window, surface and context once.
-/

namespace Shaderbox

open Interaction

namespace Demo

/-- What the demo owns. -/
def owned (demo : Demo) : Multiset DeviceObject :=
  demo.scene.elim 0 (Scene.owned Swirl.owned)

/-- Whether shaders can be built, the scene has the settings of the demo, and the camera takes any
input. -/
structure Sound (demo : Demo) : Prop where
  buffer : ∃ buffer, sourceBuffer demo.shaders = .ok buffer
  settings : ∀ scene, demo.scene = some scene → scene.config = { shaders := demo.shaders }
  camera : demo.camera.minDistance ≤ demo.camera.maxDistance

theorem sound_ofRoot (root : Path) : (ofRoot root).Sound where
  buffer := ⟨_, rfl⟩
  settings scene hscene := by contradiction
  camera := by
    change (5 : Float32) ≤ 1000
    decide +kernel

variable {demo : Demo} {aborted : Abort → Holdings → Prop}

theorem custody_contextReady (files : Files) (size : PixelSize) (hsound : demo.Sound) :
    Custody demo.owned (contextReady files size demo) fun answer => answer.2.owned := by
  obtain ⟨buffer, hbuffer⟩ := hsound.buffer
  have hinit : Ensures (Swirl.simulation.init files { shaders := demo.shaders })
      fun trace next => SwirlBuildTrace files demo.shaders trace next.objects :=
    Swirl.ensures_init hbuffer rfl
  have hcreate : Custody 0
      (Scene.create files Swirl.simulation { shaders := demo.shaders } { shaders := demo.shaders })
      (leftBy (Scene.owned Swirl.owned)) := by
    refine (ensures_create hbuffer hinit).custody fun trace result htrace others => ?_
    rw [zero_add]
    exact htrace.aliveAfter_eq (fun _ _ hbuild alive => hbuild.aliveAfter_eq alive) others
  refine custody_log_bind (hcreate.bind_part demo.owned (zero_add _).symm fun result => ?_)
  cases result with
  | error error => exact custody_done (zero_add _)
  | ok scene =>
    refine custody_log_when ?_
    refine (custody_drop Swirl.keepsAccount demo.scene).bind_part (scene.owned Swirl.owned)
      (add_comm _ _) fun _ => ?_
    exact custody_done (zero_add _)

theorem quiet_contextReady (files : Files) (size : PixelSize) (demo : Demo) :
    Quiet (contextReady files size demo) := by
  refine (quiet_log _ _).bind fun _ => (Swirl.quiet_create files _ _).bind fun result => ?_
  cases result with
  | error error => exact quiet_done _
  | ok scene =>
    exact quiet_log_when ((Swirl.quiet_drop demo.scene).bind fun _ => quiet_done _)

/-- The demo gets a scene with its own settings, or stays as it is. -/
theorem returns_contextReady (files : Files) (size : PixelSize) (hsound : demo.Sound) :
    Returns (contextReady files size demo) fun answer =>
      answer.2.Sound ∧ (answer.1.isSome = true → answer.2 = demo) := by
  refine returns_bind fun _ => ?_
  refine (returns_create files Swirl.simulation { shaders := demo.shaders }
    { shaders := demo.shaders }).bind fun result hresult => ?_
  cases result with
  | error error => exact returns_done ⟨hsound, fun _ => rfl⟩
  | ok scene =>
    have hdemo : Sound { demo with scene := some scene } := by
      refine ⟨hsound.buffer, fun other hother => ?_, hsound.camera⟩
      obtain rfl := Option.some.inj hother
      exact (hresult scene rfl).1
    have hdrop : Returns (do
        Scene.drop Swirl.simulation demo.scene
        return ((none : Option String), { demo with scene := some scene }))
        fun answer => answer.2.Sound ∧ (answer.1.isSome = true → answer.2 = demo) :=
      returns_bind fun _ => returns_done ⟨hdemo, fun hfailed => by contradiction⟩
    dsimp only
    split
    · exact returns_bind fun _ => hdrop
    · exact hdrop

theorem custody_reload (files : Files) (hsound : demo.Sound) :
    Custody demo.owned (demo.reload files) owned := by
  obtain ⟨shaders, scene, camera⟩ := demo
  cases scene with
  | none => exact custody_done rfl
  | some scene =>
    have hbuffer : ∃ buffer, sourceBuffer scene.config.shaders = .ok buffer := by
      rw [hsound.settings scene rfl]
      exact hsound.buffer
    refine (Shaderbox.custody_reload files hbuffer).bind fun ⟨result, next⟩ => ?_
    cases result with
    | error error => exact custody_log_bind (custody_done rfl)
    | ok swapped => exact custody_done rfl

theorem quiet_reload (files : Files) (demo : Demo) : Quiet (demo.reload files) := by
  obtain ⟨shaders, scene, camera⟩ := demo
  cases scene with
  | none => exact quiet_done _
  | some scene =>
    refine (Shaderbox.quiet_reload files scene).bind fun ⟨result, next⟩ => ?_
    cases result with
    | error error => exact (quiet_log _ _).bind fun _ => quiet_done _
    | ok swapped => exact quiet_done _

theorem returns_reload (files : Files) (hsound : demo.Sound) :
    Returns (demo.reload files) Sound := by
  obtain ⟨shaders, scene, camera⟩ := demo
  cases scene with
  | none => exact returns_done hsound
  | some scene =>
    refine (Shaderbox.returns_reload files scene).bind fun ⟨result, next⟩ hnext => ?_
    have hdemo : Sound ⟨shaders, some next, camera⟩ := by
      refine ⟨hsound.buffer, fun other hother => ?_, hsound.camera⟩
      obtain rfl := Option.some.inj hother
      exact hnext.1.trans (hsound.settings scene rfl)
    cases result with
    | error error => exact returns_bind fun _ => returns_done hdemo
    | ok swapped => exact returns_done hdemo

/-- A frame of a live scene uses only what the scene owns. -/
theorem conducts_frame (frame : Frame) (hsound : demo.Sound) :
    Conducts (.opened demo.owned) (demo.frame frame)
      (fun answer final => answer.2.Sound ∧ final = .opened answer.2.owned) aborted := by
  obtain ⟨shaders, scene, camera⟩ := demo
  cases scene with
  | none => exact conducts_done ⟨hsound, rfl⟩
  | some scene =>
    obtain ⟨moved, hmoved, hbounds⟩ := OrbitCamera.update_ok hsound.camera frame.data
    have hsettings := hsound.settings scene rfl
    have hgrid (next : Scene Swirl) (hnext : next.config = scene.config) :
        ∃ count, next.config.gridVertexCount = .ok count := by
      rw [hnext, hsettings]
      exact gridVertexCount_ok (show (32 : UInt32).toNat < 2 ^ 29 - 1 by decide)
    unfold Demo.frame
    dsimp only
    rw [hmoved]
    refine conducts_window_bind fun size => ⟨trivial, ?_⟩
    refine ((custody_update Swirl.keepsAccount _ _ scene).conducts_opened
      (Swirl.quiet_perform (.update _ _) scene)
      (returns_perform Swirl.simulation (.update _ _) scene)).bind ?_
    rintro updated _ ⟨hupdated, rfl⟩
    obtain ⟨count, hcount⟩ := hgrid updated hupdated
    refine ((custody_render Swirl.keepsAccount hcount _ _).conducts_opened
      (Swirl.quiet_perform (.render _ _) updated)
      (returns_perform Swirl.simulation (.render _ _) updated)).bind ?_
    rintro rendered _ ⟨hrendered, rfl⟩
    refine conducts_done ⟨⟨hsound.buffer, fun other hother => ?_, hbounds⟩, rfl⟩
    obtain rfl := Option.some.inj hother
    exact (hrendered.trans hupdated).trans hsettings

theorem conducts_drop (scene? : Option (Scene Swirl)) :
    Conducts (.opened (scene?.elim 0 (Scene.owned Swirl.owned)))
      (Scene.drop Swirl.simulation scene?) (fun _ final => final = .opened 0) aborted :=
  (custody_drop Swirl.keepsAccount scene?).conducts (Swirl.quiet_drop scene?) rfl rfl

/-- Dropping a scene that owns nothing does nothing. -/
theorem conducts_drop_idle {scene? : Option (Scene Swirl)} {held : Holdings}
    (howned : scene?.elim 0 (Scene.owned Swirl.owned) = 0) :
    Conducts held (Scene.drop Swirl.simulation scene?) (fun _ final => final = held) aborted := by
  cases scene? with
  | none => exact conducts_done rfl
  | some scene =>
    cases hobjects : scene.objects with
    | none =>
      rw [drop_eq, perform_eq_done hobjects]
      exact conducts_done rfl
    | some objects =>
      change scene.owned Swirl.owned = 0 at howned
      rw [Scene.owned, hobjects] at howned
      simp [ScenePrograms.objects] at howned

theorem keepsLedger : KeepsLedger app Sound owned where
  contextReady files size demo aborted hsound howned := by
    have hready : Conducts (.opened demo.owned) (contextReady files size demo) _ aborted :=
      (custody_contextReady files size hsound).conducts_opened (quiet_contextReady files size demo)
        (returns_contextReady files size hsound)
    rw [← howned]
    refine hready.mono ?_ fun _ _ => id
    rintro answer _ ⟨⟨hnext, hfailed⟩, rfl⟩
    refine ⟨hnext, rfl, fun hreason => ?_⟩
    rw [hfailed hreason, howned]
  windowEvent event demo held aborted hsound := conducts_done ⟨hsound, rfl, rfl⟩
  input files event demo aborted hsound := by
    change Conducts _ (Demo.input files event demo) _ _
    unfold Demo.input
    split
    · refine ((custody_reload files hsound).conducts_opened (quiet_reload files demo)
        (returns_reload files hsound)).bind ?_
      rintro next _ hnext
      exact conducts_done hnext
    · exact conducts_done ⟨hsound, rfl⟩
  frame frame demo aborted hsound := conducts_frame frame hsound
  teardown demo aborted hsound := by
    refine (conducts_drop demo.scene).bind ?_
    rintro _ _ rfl
    have hnone : Sound { demo with scene := none } :=
      ⟨hsound.buffer, fun scene hscene => by contradiction, hsound.camera⟩
    exact conducts_done ⟨hnone, rfl, rfl⟩
  release demo aborted hsound := conducts_drop demo.scene
  releaseIdle demo aborted hsound howned := conducts_drop_idle howned

/-- Every run of the demo releases everything. Whatever callbacks the event loop delivers, whatever
the files hold, and whatever the device and the window system refuse, the device is called only
while a context is current, every object is deleted exactly once and before its context is dropped,
and every window, surface and context is dropped exactly once, the window last. A run only aborts
when the display has no configuration to offer or a window reports no usable scale factor. -/
theorem run_releases_everything {root : Path} {callbacks : List (Files × LoopCallback)}
    {exchanges : List (Exchange (Effects Graphics))}
    {outcome : Except Abort (Except RunError Unit)}
    (h : Yields (run root callbacks) exchanges outcome) :
    ReleasesEverything exchanges ∧
      ∀ cause, outcome = .error cause → cause = .noDisplayConfig ∨ cause = .invalidScaleFactor := by
  have hrun : Conducts {} (run root callbacks) (fun _ final => final = {}) (AbortsAt {}) :=
    Runtime.conducts_run keepsLedger _ _ (sound_ofRoot root) rfl callbacks
  obtain ⟨final, hleads, hends⟩ := hrun _ _ h
  have hfinal : final = {} := by
    cases outcome with
    | ok result => exact hends
    | error cause => exact hends.2
  rw [hfinal] at hleads
  refine ⟨hleads.releasesEverything, fun cause hcause => ?_⟩
  subst hcause
  exact hends.1

/-- On a device that has one program left the demo gets no scene, and the run ends with that after
everything was released. -/
theorem run_releases_everything_refused :
    ∃ exchanges reason,
      Yields (run ⟨"shaders"⟩ [(fun _ => .absent, .resumed), (fun _ => .absent, .exiting)])
        exchanges (.ok (.error (.window (.app reason)))) ∧
      ReleasesEverything exchanges := by
  let world : World := { device := { script := { programsLeft := some 1 } } }
  let program := run ⟨"shaders"⟩ [(fun _ => .absent, .resumed), (fun _ => .absent, .exiting)]
  let ending := (program.run (World.answerOther World.answerGraphics) world).1
  obtain ⟨exchanges, h⟩ : ∃ exchanges, Yields program exchanges ending := yields_run _ program world
  have hrun : ending.toOption = some (.error (.window (.app
      "failed to create scene: failed to create program: out of program objects"))) := by
    decide +kernel
  generalize ending = outcome at h hrun
  cases outcome with
  | error cause => contradiction
  | ok result =>
    obtain rfl := Option.some.inj hrun
    exact ⟨exchanges, _, h, (run_releases_everything h).1⟩

end Demo

end Shaderbox
