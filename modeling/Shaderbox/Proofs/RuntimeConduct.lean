import Shaderbox.Proofs.SurfaceConduct
import Shaderbox.Window.Runtime

/-!
# The runtime in the ledger

An application keeps the ledger if, while the window is open, each of its callbacks conducts itself
and accounts for the objects that its state owns, and if it owns none before it is ready and once it
was torn down. With such an application a run holds an open window and what the application owns, or
nothing at all, between any two callbacks of the event loop; and nothing is held when it is over.
-/

namespace Shaderbox

open Interaction

variable {σ : Type}

/-- Whether an application, in states of some kind, keeps the ledger of the objects they own. -/
structure KeepsLedger (app : App σ) (sound : σ → Prop) (owned : σ → Multiset DeviceObject) :
    Prop where
  contextReady : ∀ files size state aborted, sound state → owned state = 0 →
    Conducts (.opened 0) (app.contextReady files size state)
      (fun answer final => sound answer.2 ∧ final = .opened (owned answer.2) ∧
        (answer.1.isSome = true → owned answer.2 = 0)) aborted
  windowEvent : ∀ event state held aborted, sound state →
    Conducts held (app.windowEvent event state)
      (fun answer final => sound answer.2 ∧ owned answer.2 = owned state ∧ final = held) aborted
  input : ∀ files event state aborted, sound state →
    Conducts (.opened (owned state)) (app.input files event state)
      (fun answer final => sound answer.2 ∧ final = .opened (owned answer.2)) aborted
  frame : ∀ frame state aborted, sound state →
    Conducts (.opened (owned state)) (app.frame frame state)
      (fun answer final => sound answer.2 ∧ final = .opened (owned answer.2)) aborted
  teardown : ∀ state aborted, sound state →
    Conducts (.opened (owned state)) (app.teardown state)
      (fun next final => sound next ∧ owned next = 0 ∧ final = .opened 0) aborted
  release : ∀ state aborted, sound state →
    Conducts (.opened (owned state)) (app.release state) (fun _ final => final = .opened 0) aborted
  releaseIdle : ∀ state aborted, sound state → owned state = 0 →
    Conducts {} (app.release state) (fun _ final => final = {}) aborted

/-- Whether so much is held as a run should hold between two callbacks. -/
structure Runtime.Stands (sound : σ → Prop) (owned : σ → Multiset DeviceObject)
    (runtime : Runtime σ) (held : Holdings) : Prop where
  sound : sound runtime.app
  closed : runtime.entry = none → owned runtime.app = 0 ∧ held = {}
  opened : runtime.entry.isSome = true → held = .opened (owned runtime.app)

/-- Aborts that a callback may end with, always before anything else was done. -/
def AbortsAt (held : Holdings) (cause : Abort) (final : Holdings) : Prop :=
  (cause = .noDisplayConfig ∨ cause = .invalidScaleFactor) ∧ final = held

/-- A window event can only fail to become an input event for the sake of the scale factor. -/
theorem WindowEvent.input_error {event : WindowEvent} {scaleFactor : Float} {cause : Abort}
    (h : event.input scaleFactor = .error cause) : cause = .invalidScaleFactor := by
  have hlogical {x y : Float} {map : Float32 × Float32 → Option InputEvent}
      (hmapped : (toLogical scaleFactor x y).map map = .error cause) :
      cause = .invalidScaleFactor := by
    unfold toLogical at hmapped
    split at hmapped
    · contradiction
    · exact (Except.error.inj hmapped).symm
  cases event with
  | cursorMoved x y => exact hlogical h
  | wheel scroll =>
    cases scroll with
    | lines x y => contradiction
    | pixels x y => exact hlogical h
  | _ => contradiction

namespace Runtime

variable {app : App σ} {sound : σ → Prop} {owned : σ → Multiset DeviceObject}
  {runtime : Runtime σ} {held : Holdings} {aborted : Abort → Holdings → Prop}

theorem conducts_closeWindow (happ : KeepsLedger app sound owned)
    (hstands : runtime.Stands sound owned held) :
    Conducts held (runtime.closeWindow app)
      (fun next final => next.Stands sound owned final ∧ next.entry = none) aborted := by
  obtain ⟨window, context, state, entry, exitRequested, failure⟩ := runtime
  cases entry with
  | none => exact conducts_done ⟨hstands, rfl⟩
  | some entry =>
    obtain rfl := hstands.opened rfl
    refine (happ.teardown state aborted hstands.sound).bind ?_
    rintro next _ ⟨hsound, howned, rfl⟩
    refine (Surface.conducts_drop entry.surface).bind ?_
    rintro _ _ rfl
    exact conducts_done ⟨⟨hsound, fun _ => ⟨howned, rfl⟩, fun hopen => by contradiction⟩, rfl⟩

theorem conducts_shutDown (happ : KeepsLedger app sound owned)
    (hstands : runtime.Stands sound owned held) :
    Conducts held (runtime.shutDown app) (Stands sound owned) aborted := by
  refine (conducts_closeWindow happ hstands).bind ?_
  rintro next final ⟨hnext, -⟩
  refine conducts_window_bind fun _ => ⟨trivial, conducts_done ?_⟩
  exact ⟨hnext.sound, hnext.closed, hnext.opened⟩

theorem conducts_fail (happ : KeepsLedger app sound owned) (error : WindowError)
    (hstands : runtime.Stands sound owned held) :
    Conducts held (runtime.fail app error) (Stands sound owned) aborted := by
  refine conducts_log_bind (conducts_shutDown happ ?_)
  exact ⟨hstands.sound, hstands.closed, hstands.opened⟩

theorem conducts_openWindow (happ : KeepsLedger app sound owned) (files : Files)
    (hstands : runtime.Stands sound owned held) (hclosed : runtime.entry = none) :
    Conducts held (runtime.openWindow app files) (Stands sound owned) (AbortsAt held) := by
  obtain ⟨howned, rfl⟩ := hstands.closed hclosed
  refine (Surface.conducts_openWindow ⟨.inl rfl, rfl⟩ _ _).bind ?_
  rintro (error | surface) _ rfl
  · exact conducts_fail happ error hstands
  · refine conducts_window_bind fun size => ⟨trivial, ?_⟩
    have hready : Conducts (.opened 0)
        ((app.contextReady files size runtime.app).onAbort surface.drop)
        (fun answer final => sound answer.2 ∧ final = .opened (owned answer.2) ∧
          (answer.1.isSome = true → owned answer.2 = 0)) (AbortsAt {}) :=
      (happ.contextReady files size runtime.app (fun _ _ => False) hstands.sound howned).onAbort
        (fun _ _ hnever => hnever.elim) fun _ _ hnever => hnever.elim
    refine hready.bind ?_
    rintro ⟨failure, state⟩ _ ⟨hsound, rfl, hfailed⟩
    cases failure with
    | some reason =>
      rw [hfailed rfl]
      refine (Surface.conducts_drop surface).bind ?_
      rintro _ _ rfl
      refine conducts_fail happ _ ⟨hsound, fun _ => ⟨hfailed rfl, rfl⟩, fun hopen => ?_⟩
      rw [hclosed] at hopen
      contradiction
    | none =>
      refine conducts_window_bind fun _ => ⟨trivial, conducts_window_bind fun now => ⟨trivial, ?_⟩⟩
      exact conducts_done ⟨hsound, fun hnone => by contradiction, fun _ => rfl⟩

theorem conducts_resumed (happ : KeepsLedger app sound owned) (files : Files)
    (hstands : runtime.Stands sound owned held) :
    Conducts held (runtime.resumed app files) (Stands sound owned) (AbortsAt held) := by
  unfold resumed
  split
  · exact conducts_done hstands
  · rename_i hidle
    refine conducts_openWindow happ files hstands ?_
    rw [Bool.or_eq_true, not_or] at hidle
    simpa using hidle.1

theorem conducts_aboutToWait (hstands : runtime.Stands sound owned held) :
    Conducts held runtime.aboutToWait (Stands sound owned) aborted := by
  unfold aboutToWait
  dsimp only
  split
  · exact conducts_window_bind fun _ => ⟨trivial, conducts_done hstands⟩
  · refine conducts_window_bind fun _ => ⟨trivial, ?_⟩
    split
    · exact conducts_window_bind fun _ => ⟨trivial, conducts_done hstands⟩
    · exact conducts_done hstands

theorem conducts_drawFrame (happ : KeepsLedger app sound owned) (entry : WindowEntry) (state : σ)
    (hsound : sound state) :
    Conducts (.opened (owned state)) (drawFrame app entry state)
      (fun answer final => sound answer.2.2 ∧ final = .opened (owned answer.2.2)) aborted := by
  refine conducts_window_bind fun now => ⟨trivial, ?_⟩
  refine (happ.frame _ state aborted hsound).bind ?_
  rintro ⟨control, next⟩ _ ⟨hnext, rfl⟩
  refine conducts_window_bind fun _ => ⟨trivial, ?_⟩
  refine (Surface.conducts_present entry.surface).bind ?_
  rintro _ _ rfl
  exact conducts_done ⟨hnext, rfl⟩

theorem conducts_redraw (happ : KeepsLedger app sound owned)
    (hstands : runtime.Stands sound owned held) :
    Conducts held (runtime.redraw app) (Stands sound owned) aborted := by
  obtain ⟨window, context, state, entry, exitRequested, failure⟩ := runtime
  cases entry with
  | none => exact conducts_done hstands
  | some entry =>
    obtain rfl := hstands.opened rfl
    have hdrawn (drawn : WindowEntry) (next : σ) (hsound : sound next) :
        Stands sound owned
          ⟨window, context, next, some { drawn with events := drawn.events.beginFrame },
            exitRequested, failure⟩ (.opened (owned next)) :=
      ⟨hsound, fun hnone => by contradiction, fun _ => rfl⟩
    unfold redraw
    dsimp only
    split
    · exact conducts_shutDown happ (hdrawn entry state hstands.sound)
    · refine (conducts_drawFrame happ entry state hstands.sound).bind ?_
      rintro ⟨control, drawn, next⟩ _ ⟨hsound, rfl⟩
      cases control with
      | exit => exact conducts_shutDown happ (hdrawn drawn next hsound)
      | «continue» => exact conducts_done (hdrawn drawn next hsound)

theorem conducts_deliverInput (happ : KeepsLedger app sound owned) (files : Files)
    (event : WindowEvent) (hstands : runtime.Stands sound owned held) :
    Conducts held (runtime.deliverInput app files event)
      (fun answer final => answer.2.Stands sound owned final) (AbortsAt held) := by
  obtain ⟨window, context, state, entry, exitRequested, failure⟩ := runtime
  cases entry with
  | none => exact conducts_done hstands
  | some entry =>
    obtain rfl := hstands.opened rfl
    refine conducts_window_bind fun scaleFactor => ⟨trivial, ?_⟩
    cases hinput : event.input scaleFactor with
    | error cause => exact conducts_abort ⟨.inr (WindowEvent.input_error hinput), rfl⟩
    | ok input =>
      cases input with
      | none => exact conducts_done hstands
      | some input =>
        refine (happ.input files input state _ hstands.sound).bind ?_
        rintro ⟨control, next⟩ _ ⟨hnext, rfl⟩
        exact conducts_done ⟨hnext, fun hnone => by contradiction, fun _ => rfl⟩

theorem conducts_resize {entry : WindowEntry} (size : PixelSize)
    (hstands : runtime.Stands sound owned held) (hentry : runtime.entry = some entry) :
    Conducts held (runtime.resize size entry) (Stands sound owned) aborted := by
  obtain rfl := hstands.opened (by rw [hentry]; rfl)
  refine (Surface.conducts_resize entry.surface size).bind ?_
  rintro surface _ rfl
  exact conducts_done ⟨hstands.sound, fun hnone => by contradiction, fun _ => rfl⟩

theorem conducts_react (happ : KeepsLedger app sound owned) (event : WindowEvent)
    (hstands : runtime.Stands sound owned held) :
    Conducts held (runtime.react app event) (Stands sound owned) aborted := by
  unfold react
  split
  · exact conducts_shutDown happ hstands
  · rename_i size entry hentry
    refine (conducts_resize size hstands hentry).bind fun next final hnext => ?_
    exact conducts_window_bind fun _ => ⟨trivial, conducts_done hnext⟩
  · rename_i entry hentry
    exact conducts_window_bind fun size => ⟨trivial, conducts_resize size hstands hentry⟩
  · exact conducts_redraw happ hstands
  · exact conducts_done hstands

theorem conducts_windowEvent (happ : KeepsLedger app sound owned) (files : Files)
    (event : WindowEvent) (hstands : runtime.Stands sound owned held) :
    Conducts held (runtime.windowEvent app files event) (Stands sound owned) (AbortsAt held) := by
  unfold windowEvent
  split
  · exact conducts_done hstands
  · refine (conducts_deliverInput happ files event hstands).bind ?_
    rintro ⟨control, next⟩ middle hnext
    cases control with
    | exit => exact conducts_shutDown happ hnext
    | «continue» =>
      refine (happ.windowEvent event next.app middle _ hnext.sound).bind ?_
      rintro ⟨control, state⟩ now ⟨hsound, howned, rfl⟩
      have hstate : Stands sound owned { next with app := state } now := by
        refine ⟨hsound, fun hnone => ?_, fun hopen => ?_⟩
        · exact ⟨howned.trans (hnext.closed hnone).1, (hnext.closed hnone).2⟩
        · rw [hnext.opened hopen, howned]
      cases control with
      | exit => exact conducts_shutDown happ hstate
      | «continue» => exact conducts_react happ event hstate

theorem conducts_deliver (happ : KeepsLedger app sound owned) (files : Files)
    (callback : LoopCallback) (hstands : runtime.Stands sound owned held) :
    Conducts held (runtime.deliver app files callback) (Stands sound owned) (AbortsAt held) := by
  cases callback with
  | resumed => exact conducts_resumed happ files hstands
  | windowEvent event => exact conducts_windowEvent happ files event hstands
  | aboutToWait => exact conducts_aboutToWait hstands
  | exiting =>
    exact (conducts_closeWindow happ hstands).mono (fun _ _ hnext => hnext.1) fun _ _ => id

theorem conducts_release (happ : KeepsLedger app sound owned)
    (hstands : runtime.Stands sound owned held) :
    Conducts held (runtime.release app) (fun _ final => final = {}) aborted := by
  obtain ⟨window, context, state, entry, exitRequested, failure⟩ := runtime
  cases entry with
  | none =>
    obtain ⟨howned, rfl⟩ := hstands.closed rfl
    refine (happ.releaseIdle state aborted hstands.sound howned).bind ?_
    rintro _ _ rfl
    exact conducts_done rfl
  | some entry =>
    obtain rfl := hstands.opened rfl
    refine (happ.release state aborted hstands.sound).bind ?_
    rintro _ _ rfl
    exact Surface.conducts_drop entry.surface

/-- Between any two callbacks so much is held as should be, and behind an abort nothing is. -/
theorem conducts_deliverAll (happ : KeepsLedger app sound owned)
    (callbacks : List (Files × LoopCallback)) (hstands : runtime.Stands sound owned held) :
    Conducts held (deliverAll app callbacks runtime) (Stands sound owned) (AbortsAt {}) := by
  induction callbacks generalizing runtime held with
  | nil => exact conducts_done hstands
  | cons first rest ih =>
    obtain ⟨files, callback⟩ := first
    refine Conducts.bind ?_ fun next middle hnext => ih hnext
    refine (conducts_deliver happ files callback hstands).onAbort ?_ ?_
    · rintro cause _ ⟨rfl | rfl, rfl⟩
      · rfl
      · rfl
    · rintro cause _ ⟨hcause, rfl⟩
      refine (conducts_release happ hstands).mono ?_ fun _ _ => id
      rintro _ _ rfl
      exact ⟨hcause, rfl⟩

/-- A run of an application that keeps the ledger, from a state that owns nothing, leaves nothing. -/
theorem conducts_run (happ : KeepsLedger app sound owned) (window : WindowSettings)
    (context : ContextSettings) {state : σ} (hsound : sound state) (howned : owned state = 0)
    (callbacks : List (Files × LoopCallback)) :
    Conducts {} (run app window context state callbacks) (fun _ final => final = {})
      (AbortsAt {}) := by
  refine conducts_window_bind fun
    | some reason => ⟨trivial, ?_⟩
    | none => ⟨trivial, ?_⟩
  · refine (happ.releaseIdle state _ hsound howned).bind ?_
    rintro _ _ rfl
    exact conducts_done rfl
  · have hstart : Stands sound owned { window, context, app := state } {} :=
      ⟨hsound, fun _ => ⟨howned, rfl⟩, fun hopen => by contradiction⟩
    refine (conducts_deliverAll happ callbacks hstart).bind fun runtime held hstands => ?_
    have hover (result : Except RunError Unit) :
        Conducts held (do runtime.release app; return result) (fun _ final => final = {})
          (AbortsAt {}) := by
      refine (conducts_release happ hstands).bind ?_
      rintro _ _ rfl
      exact conducts_done rfl
    exact conducts_window_bind fun
      | some reason => ⟨trivial, hover _⟩
      | none => ⟨trivial, hover _⟩

end Runtime

end Shaderbox
