import Shaderbox.Proofs.Conduct
import Shaderbox.Window.Surface

/-!
# Opening and dropping a window

A window with its surface and its current context is opened as a whole. When a step fails all that
was made before is dropped, and then nothing is held.
-/

namespace Shaderbox

open Interaction

/-- What is held while a window is open and the given objects are alive. -/
def Holdings.opened (objects : Multiset DeviceObject) : Holdings :=
  ⟨true, true, .current, objects⟩

variable {aborted : Abort → Holdings → Prop}

/-- While a window is open, a program that keeps custody and asks nobody but the device and the log
turns the objects that are alive. -/
theorem Custody.conducts_opened {α : Type} {program : Action α} {before : Multiset DeviceObject}
    {left : α → Multiset DeviceObject} {kind : α → Prop} (h : Custody before program left)
    (hquiet : Quiet program) (hkind : Returns program kind) :
    Conducts (.opened before) program
      (fun result final => kind result ∧ final = .opened (left result)) aborted :=
  (h.conducts hquiet rfl rfl).of_returns hkind

/-- What is held once a window was opened, or could not be. -/
def HeldIfOpened (result : Except WindowError Surface) (final : Holdings) : Prop :=
  final = if result.isOk then .opened 0 else {}

namespace Surface

theorem conducts_drop (surface : Surface) :
    Conducts (.opened 0) surface.drop (fun _ final => final = {}) aborted := by
  refine conducts_window_bind fun _ => ⟨rfl, ?_⟩
  refine conducts_window_bind fun _ => ⟨⟨ContextStage.noConfusion, rfl⟩, ?_⟩
  exact conducts_window_bind fun _ => ⟨⟨rfl, rfl, rfl⟩, conducts_done rfl⟩

theorem conducts_fail_window (error : WindowError) :
    Conducts { window := true } (fail [.dropWindow] error : Action (Except WindowError Surface))
      HeldIfOpened aborted :=
  conducts_window_bind fun _ => ⟨⟨rfl, rfl, rfl⟩, conducts_done rfl⟩

theorem conducts_fail_context (error : WindowError) :
    Conducts { window := true, context := .pending }
      (fail [.dropContext, .dropWindow] error : Action (Except WindowError Surface))
      HeldIfOpened aborted :=
  conducts_window_bind fun _ => ⟨⟨ContextStage.noConfusion, rfl⟩, conducts_fail_window error⟩

theorem conducts_fail_surface (error : WindowError) :
    Conducts { window := true, surface := true, context := .pending }
      (fail [.dropContext, .dropSurface, .dropWindow] error : Action (Except WindowError Surface))
      HeldIfOpened aborted := by
  refine conducts_window_bind fun _ => ⟨⟨ContextStage.noConfusion, rfl⟩, ?_⟩
  exact conducts_window_bind fun _ => ⟨rfl, conducts_fail_window error⟩

theorem conducts_applyViewport {objects : Multiset DeviceObject} (surface : Surface) :
    Conducts (.opened objects) surface.applyViewport (fun _ final => final = .opened objects)
      aborted :=
  (custody_plain rfl rfl).conducts (quiet_graphics _) rfl rfl

/-- Behind a step that failed nothing is left to do but to give the error back. -/
theorem conducts_failed {held : Holdings} {program : Action (Except WindowError Surface)}
    (h : Conducts held program HeldIfOpened aborted) :
    Conducts held (program.bind fun result => .done result) HeldIfOpened aborted :=
  h.bind fun _ _ hfinal => conducts_done hfinal

theorem conducts_attach (settings : ContextSettings) (config : Nat) :
    Conducts { window := true } (attach settings config) HeldIfOpened aborted := by
  have hcurrent : Conducts (.opened 0) (do
      let version ← Action.window .graphicsVersion
      let renderer ← Action.window .rendererName
      Action.log .info s!"OpenGL {version} on {renderer}"
      let surface := Surface.mk (← Action.window .innerSize)
      surface.applyViewport
      return (.ok surface : Except WindowError Surface)) HeldIfOpened aborted := by
    refine conducts_window_bind fun _ => ⟨rfl, conducts_window_bind fun _ => ⟨rfl, ?_⟩⟩
    refine conducts_log_bind (conducts_window_bind fun size => ⟨trivial, ?_⟩)
    exact (conducts_applyViewport _).bind fun _ _ hfinal => conducts_done hfinal
  -- each step may fail, and what was made by then is dropped
  refine conducts_window_bind fun
    | some reason => ⟨trivial, conducts_failed (conducts_fail_window _)⟩
    | none => ⟨trivial, ?_⟩
  refine conducts_window_bind fun
    | some reason => ⟨trivial, conducts_failed (conducts_fail_window _)⟩
    | none => ⟨⟨rfl, rfl⟩, ?_⟩
  refine conducts_window_bind fun
    | some reason => ⟨trivial, conducts_failed (conducts_fail_context _)⟩
    | none => ⟨trivial, ?_⟩
  refine conducts_window_bind fun
    | some reason => ⟨trivial, conducts_failed (conducts_fail_context _)⟩
    | none => ⟨⟨rfl, rfl⟩, ?_⟩
  refine conducts_window_bind fun
    | some reason => ⟨trivial, conducts_failed (conducts_fail_surface _)⟩
    | none => ⟨⟨rfl, rfl⟩, ?_⟩
  refine conducts_window_bind fun
    | some reason => ⟨rfl, conducts_log_bind hcurrent⟩
    | none => ⟨rfl, hcurrent⟩

/-- Opening a window leads to an open window or to nothing. It only aborts when there is no display
configuration to pick from, and then nothing is held. -/
theorem conducts_openWindow (haborted : aborted .noDisplayConfig {}) (window : WindowSettings)
    (settings : ContextSettings) :
    Conducts {} (openWindow window settings) HeldIfOpened aborted := by
  refine conducts_window_bind fun listed => ?_
  cases listed with
  | error reason => exact ⟨trivial, conducts_done rfl⟩
  | ok configs =>
    refine ⟨trivial, ?_⟩
    dsimp only
    cases greatestPosition configs with
    | none => exact conducts_abort haborted
    | some config =>
      refine conducts_window_bind fun made => ?_
      cases made with
      | true => exact ⟨rfl, conducts_attach settings config⟩
      | false => exact ⟨trivial, conducts_done rfl⟩

theorem conducts_resize {objects : Multiset DeviceObject} (surface : Surface) (size : PixelSize) :
    Conducts (.opened objects) (surface.resize size) (fun _ final => final = .opened objects)
      aborted := by
  unfold resize
  dsimp only
  split
  · exact conducts_done rfl
  · refine conducts_window_bind fun _ => ⟨⟨rfl, rfl⟩, ?_⟩
    exact (conducts_applyViewport _).bind fun _ _ hfinal => conducts_done hfinal

theorem conducts_present {objects : Multiset DeviceObject} (surface : Surface) :
    Conducts (.opened objects) surface.present (fun _ final => final = .opened objects)
      aborted := by
  refine conducts_window_bind fun
    | some reason => ⟨⟨rfl, rfl⟩, conducts_log_bind (conducts_done rfl)⟩
    | none => ⟨⟨rfl, rfl⟩, conducts_done rfl⟩

end Surface

end Shaderbox
