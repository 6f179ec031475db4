import Shaderbox.Proofs.HostManners

/-!
# The phases of a run

Between two callbacks of the event loop a run has no window yet, holds one, or is shut down. What
the runtime itself keeps says which, and agrees with what its course so far says. Opening a window
and shutting down lead from one phase to the next.
-/

namespace Shaderbox

open Interaction Course

variable {σ : Type} {tidy : Prop} {past : Course σ} {broken : Abort → Course σ → Prop}

/-- What is left by an attempt to open a window. -/
def WindowTried (tidy : Prop) : Except WindowError Surface → Course σ → Prop
  | .ok _, past => Idle tidy past
  | .error _, past => Closed true past

/-- Whether a window, if there is one, may be closed. -/
structure Runtime.MayClose (runtime : Runtime σ) (past : Course σ) : Prop where
  down : runtime.entry = none → Down runtime.failure.isSome past
  held : runtime.entry.isSome = true → runtime.failure = none ∧ Held past

/-- How a run stands between two callbacks of the event loop: it waits for its window, the window is
open, or it is over. -/
inductive Runtime.Phase (tidy : Prop) : Runtime σ → Course σ → Prop
  | idle {runtime past} (hentry : runtime.entry = none) (hexit : runtime.exitRequested = false)
      (hfailure : runtime.failure = none) (h : Idle tidy past) : Phase tidy runtime past
  | opened {runtime past} {entry : WindowEntry} (hentry : runtime.entry = some entry)
      (hexit : runtime.exitRequested = false) (hfailure : runtime.failure = none)
      (h : Open entry past) : Phase tidy runtime past
  | ended {runtime past} (hentry : runtime.entry = none) (hexit : runtime.exitRequested = true)
      (h : Down runtime.failure.isSome past) : Phase tidy runtime past

section Phase

variable {runtime : Runtime σ} {exchange : Exchange (Hosting σ)}

theorem Runtime.MayClose.concat (h : runtime.MayClose past) (hopens : exchange.opens = false)
    (hfails : exchange.failsOpening = false) (hexits : exchange.exits = false)
    (hdrops : exchange.dropsWindow = false) (hteardown : exchange.isTeardown = false) :
    runtime.MayClose (past ++ [exchange]) where
  down hentry := (h.down hentry).concat hopens hfails
  held hentry :=
    ⟨(h.held hentry).1, (h.held hentry).2.concat hopens hfails hexits hdrops hteardown⟩

theorem Runtime.Phase.mayClose (h : runtime.Phase tidy past) : runtime.MayClose past := by
  cases h with
  | idle hentry hexit hfailure h =>
    exact ⟨fun _ => by rw [hfailure]; exact h.toDown, fun hsome => by simp [hentry] at hsome⟩
  | opened hentry hexit hfailure h =>
    exact ⟨fun hnone => by simp [hentry] at hnone, fun _ => ⟨hfailure, h.toHeld⟩⟩
  | ended hentry hexit h => exact ⟨fun _ => h, fun hsome => by simp [hentry] at hsome⟩

/-- An error is remembered just if a step on the way to an open window failed. -/
theorem Runtime.Phase.refused (h : runtime.Phase tidy past) :
    past.any Exchange.failsOpening = runtime.failure.isSome := by
  cases h with
  | idle hentry hexit hfailure h => rw [hfailure, h.refused]; rfl
  | opened hentry hexit hfailure h => rw [hfailure, h.accepted]; rfl
  | ended hentry hexit h => exact h.refused

theorem Runtime.Phase.running (h : runtime.Phase tidy past)
    (hexit : runtime.exitRequested = false) : past.any Exchange.exits = false := by
  cases h with
  | idle hentry hexit hfailure h => exact h.running
  | opened hentry hexit hfailure h => exact h.running
  | ended hentry hover h => simp [hover] at hexit

theorem Runtime.Phase.of_entry {entry : WindowEntry} (h : runtime.Phase tidy past)
    (hentry : runtime.entry = some entry) :
    runtime.exitRequested = false ∧ runtime.failure = none ∧ Open entry past := by
  cases h with
  | idle hnone hexit hfailure h => simp [hnone] at hentry
  | opened hsome hexit hfailure h =>
    obtain rfl := Option.some.inj (hsome.symm.trans hentry)
    exact ⟨hexit, hfailure, h⟩
  | ended hnone hexit h => simp [hnone] at hentry

theorem Runtime.Phase.of_held (h : runtime.Phase tidy past) (hheld : holdsWindow past = true) :
    runtime.exitRequested = false ∧ ∃ entry, runtime.entry = some entry := by
  cases h with
  | idle hentry hexit hfailure h =>
    rw [h.closed] at hheld
    contradiction
  | opened hentry hexit hfailure h => exact ⟨hexit, _, hentry⟩
  | ended hentry hexit h =>
    rw [h.closed] at hheld
    contradiction

theorem Runtime.Phase.concat (h : runtime.Phase tidy past) (hinert : exchange.inert = true) :
    runtime.Phase tidy (past ++ [exchange]) := by
  cases h with
  | idle hentry hexit hfailure h => exact .idle hentry hexit hfailure (h.concat hinert)
  | opened hentry hexit hfailure h => exact .opened hentry hexit hfailure (h.concat hinert)
  | ended hentry hexit h =>
    obtain ⟨hopens, -, -, -, -, -, hfails, -⟩ := Exchange.inert_iff.mp hinert
    exact .ended hentry hexit (h.concat hopens hfails)

/-- The state of the application does not matter. -/
theorem Runtime.Phase.withApp (h : runtime.Phase tidy past) (state : σ) :
    Phase tidy { runtime with app := state } past := by
  cases h with
  | idle hentry hexit hfailure h => exact .idle hentry hexit hfailure h
  | opened hentry hexit hfailure h => exact .opened hentry hexit hfailure h
  | ended hentry hexit h => exact .ended hentry hexit h

end Phase

namespace Host

/-- Behind a step that failed what was made before is dropped. -/
theorem behaves_surface_fail {dropped : List WindowCall} {error : WindowError}
    (hdropped : ∀ call ∈ dropped, call ∈ [.dropSurface, .dropContext, .dropWindow])
    (h : Closed true past) :
    Behaves (manners σ tidy) past (world (Surface.fail dropped error)) (WindowTried tidy)
      broken := by
  induction dropped generalizing past with
  | nil => exact behaves_done h
  | cons call rest ih =>
    obtain ⟨hcall, hrest⟩ := List.forall_mem_cons.mp hdropped
    obtain rfl | rfl | rfl :
      call = .dropSurface ∨ call = .dropContext ∨ call = .dropWindow := by simpa using hcall
    all_goals
      refine behaves_world_plain_bind rfl fun answer => ?_
      exact ih hrest (h.concat rfl rfl rfl)

/-- Behind a step that failed nothing is left to do but to give the error back. -/
theorem behaves_failed {exchange : Exchange (Hosting σ)} (dropped : List WindowCall)
    (error : WindowError) (h : Idle tidy past)
    (hdropped : ∀ call ∈ dropped, call ∈ [.dropSurface, .dropContext, .dropWindow])
    (hopens : exchange.opens = false) (hfails : exchange.failsOpening = true)
    (hexits : exchange.exits = false) :
    Behaves (manners σ tidy) (past ++ [exchange])
      (world ((Surface.fail dropped error).bind fun result => .done result)) (WindowTried tidy)
      broken := by
  rw [bind_done]
  exact behaves_surface_fail hdropped (h.concat_refusal hopens hfails hexits)

theorem behaves_attach (settings : ContextSettings) (config : Nat) (h : Idle tidy past) :
    Behaves (manners σ tidy) past (world (Surface.attach settings config)) (WindowTried tidy)
      broken := by
  -- the window is current: what is still asked cannot fail
  have hcurrent {past : Course σ} (h : Idle tidy past) :
      Behaves (manners σ tidy) past (world (do
        let version ← Action.window .graphicsVersion
        let renderer ← Action.window .rendererName
        Action.log .info s!"OpenGL {version} on {renderer}"
        let surface := Surface.mk (← Action.window .innerSize)
        surface.applyViewport
        return (.ok surface : Except WindowError Surface))) (WindowTried tidy) broken := by
    refine behaves_world_plain_bind rfl fun version => ?_
    refine behaves_world_plain_bind rfl fun renderer => ?_
    refine behaves_world_log_bind ?_
    refine behaves_world_plain_bind rfl fun size => ?_
    refine behaves_world_graphics_bind fun _ => behaves_done ?_
    exact ((((h.concat rfl).concat rfl).concat rfl).concat rfl).concat rfl
  -- each step may fail, and what was made by then is dropped
  refine behaves_world_window_bind fun
    | some reason =>
      ⟨fun back => ⟨rfl, fun _ => h.fresh⟩, behaves_failed [.dropWindow] _ h (by simp) rfl rfl rfl⟩
    | none => ⟨fun back => ⟨rfl, nofun⟩, ?_⟩
  replace h := h.concat (show (Exchange.window .nativeHandle none).inert = true from rfl)
  refine behaves_world_window_bind fun
    | some reason =>
      ⟨fun back => ⟨rfl, fun _ => h.fresh⟩, behaves_failed [.dropWindow] _ h (by simp) rfl rfl rfl⟩
    | none => ⟨fun back => ⟨rfl, nofun⟩, ?_⟩
  replace h := h.concat (show
    (Exchange.window (.createContext config settings.major settings.minor) none).inert = true
    from rfl)
  refine behaves_world_window_bind fun
    | some reason =>
      ⟨fun back => ⟨rfl, fun _ => h.fresh⟩,
        behaves_failed [.dropContext, .dropWindow] _ h (by simp) rfl rfl rfl⟩
    | none => ⟨fun back => ⟨rfl, nofun⟩, ?_⟩
  replace h := h.concat (show (Exchange.window .describeSurface none).inert = true from rfl)
  refine behaves_world_window_bind fun
    | some reason =>
      ⟨fun back => ⟨rfl, fun _ => h.fresh⟩,
        behaves_failed [.dropContext, .dropWindow] _ h (by simp) rfl rfl rfl⟩
    | none => ⟨fun back => ⟨rfl, nofun⟩, ?_⟩
  replace h := h.concat (show (Exchange.window (.createSurface config) none).inert = true from rfl)
  refine behaves_world_window_bind fun
    | some reason =>
      ⟨fun back => ⟨rfl, fun _ => h.fresh⟩,
        behaves_failed [.dropContext, .dropSurface, .dropWindow] _ h (by simp) rfl rfl rfl⟩
    | none => ⟨fun back => ⟨rfl, nofun⟩, ?_⟩
  replace h := h.concat (show (Exchange.window .makeCurrent none).inert = true from rfl)
  exact behaves_world_window_bind fun
    | some reason =>
      ⟨fun back => ⟨rfl, nofun⟩,
        behaves_world_log_bind (hcurrent ((h.concat rfl).concat rfl))⟩
    | none => ⟨fun back => ⟨rfl, nofun⟩, hcurrent (h.concat rfl)⟩

/-- There is a greatest position unless there are no sample counts at all. -/
theorem greatestPosition_eq_none {samples : List Nat} (h : greatestPosition samples = none) :
    samples = [] := by
  cases samples with
  | nil => rfl
  | cons first rest => simp [greatestPosition] at h

/-- An attempt to open a window leaves one, or none after a step that failed. -/
theorem behaves_surface_openWindow (window : WindowSettings) (settings : ContextSettings)
    (h : Idle tidy past) :
    Behaves (manners σ tidy) past (world (Surface.openWindow window settings)) (WindowTried tidy)
      Broken := by
  refine behaves_world_window_bind fun listed => ?_
  cases listed with
  | error reason =>
    exact ⟨fun back => ⟨rfl, fun _ => h.fresh⟩,
      behaves_done (h.concat_refusal rfl rfl rfl)⟩
  | ok configs =>
    refine ⟨fun back => ⟨rfl, nofun⟩, ?_⟩
    dsimp only
    cases hposition : greatestPosition configs with
    | none =>
      refine behaves_abort ⟨_, List.mem_append_right past (.head _), ?_⟩
      exact ⟨greatestPosition_eq_none hposition, rfl⟩
    | some config =>
      have hlisted : ∀ samples?,
          Idle tidy (past ++ [.window (.findConfigs 8 samples?) (.ok configs)]) :=
        fun _ => h.concat rfl
      refine behaves_world_window_bind fun made => ?_
      cases made with
      | true =>
        exact ⟨fun back => ⟨rfl, (hlisted _).running, nofun⟩,
          behaves_attach settings config ((hlisted _).concat rfl)⟩
      | false =>
        exact ⟨fun back => ⟨rfl, (hlisted _).running, fun _ => (hlisted _).fresh⟩,
          behaves_done ((hlisted _).concat_refusal rfl rfl rfl)⟩

variable {runtime : Runtime σ}

theorem behaves_drop (surface : Surface) :
    Behaves (manners σ tidy) past (world surface.drop)
      (fun _ final => final = past ++ [.window .dropSurface ()] ++ [.window .dropContext ()] ++
        [.window .dropWindow ()]) broken := by
  refine behaves_world_plain_bind rfl fun _ => ?_
  refine behaves_world_plain_bind rfl fun _ => ?_
  exact behaves_world_plain_bind rfl fun _ => behaves_done rfl

/-- Where there is a window, closing it begins with tearing down the application. -/
theorem isTornDown_of_yields_closeWindow {course : Course σ}
    {outcome : Except Abort (Runtime σ)} (h : runtime.MayClose past)
    (hyields : Yields (closeWindow runtime) course outcome) : IsTornDown past course := by
  obtain ⟨window, context, state, entry, exitRequested, failure⟩ := runtime
  cases entry with
  | none =>
    have hdown : Down failure.isSome past := h.down rfl
    exact ⟨fun hheld => by simp [hdown.closed] at hheld, fun _ => hdown.settled⟩
  | some entry =>
    obtain ⟨-, hheld⟩ := h.held rfl
    refine ⟨fun _ => ?_, fun hclosed => by simp [hheld.held] at hclosed⟩
    cases hyields with
    | ask _ _ answer hrest => exact ⟨state, answer, _, rfl⟩

/-- Closing a window tears the application down first, and without a window it does nothing. -/
theorem behaves_closeWindow (h : runtime.MayClose past) :
    Behaves (manners σ tidy) past (closeWindow runtime)
      (fun next final => next = { runtime with app := next.app, entry := none } ∧
        Down runtime.failure.isSome final ∧
        final.any Exchange.exits = past.any Exchange.exits) Broken := by
  obtain ⟨window, context, state, entry, exitRequested, failure⟩ := runtime
  cases entry with
  | none => exact behaves_done ⟨rfl, h.down rfl, rfl⟩
  | some entry =>
    obtain ⟨hfailure, hheld⟩ := h.held rfl
    obtain rfl : failure = none := hfailure
    refine behaves_call_bind ?_ (fun cause => broken_concat rfl) (fun _ _ _ _ => ?_) fun _ => ?_
    · rintro ⟨_, next⟩
      have htorn : Torn (past ++ [.app .teardown state (.ok ((), next))]) := hheld.torn rfl rfl rfl
      refine (behaves_drop entry.surface).bind ?_
      rintro _ _ rfl
      exact behaves_done
        ⟨rfl, htorn.dropped.toDown, htorn.dropped.running.trans hheld.running.symm⟩
    · exact ⟨hheld.running, hheld.held, hheld.untorn⟩
    · exact ⟨hheld.running, hheld.held, hheld.untorn⟩

theorem behaves_shutDown (h : runtime.MayClose past) :
    Behaves (manners σ tidy) past (shutDown runtime) (Runtime.Phase tidy) Broken := by
  refine behaves_ask (fun _ course _ hyields => ⟨rfl, ?_⟩) fun _ => ?_
  · change Yields ((closeWindow runtime).bind _) _ _ at hyields
    exact begins_of_yields_bind (fun _ more h => h.append more)
      (fun _ _ => isTornDown_of_yields_closeWindow h) hyields
  refine (behaves_closeWindow (h.concat rfl rfl rfl rfl rfl)).bind
    fun next middle ⟨hnext, hdown, _⟩ => ?_
  refine behaves_plain_bind rfl fun _ => behaves_done ?_
  rw [hnext]
  exact .ended rfl rfl (hdown.concat rfl rfl)

theorem behaves_fail (error : WindowError) (hentry : runtime.entry = none)
    (h : Closed true past) :
    Behaves (manners σ tidy) past (fail error runtime) (Runtime.Phase tidy) Broken := by
  refine behaves_ask (fun _ _ _ _ => ⟨rfl, nofun⟩) fun _ => behaves_shutDown ?_
  exact ⟨fun _ => h.toDown.concat rfl rfl, fun hsome => by simp [hentry] at hsome⟩

/-- Making the application ready opens the window, or leads to a failure. -/
theorem behaves_contextReady (files : Files) (size : PixelSize) (state : σ) (surface : Surface)
    (h : Idle tidy past) :
    Behaves (manners σ tidy) past
      ((call (.contextReady files size) state).onAbort (world surface.drop))
      (fun result final => final = past ++ [.app (.contextReady files size) state (.ok result)])
      Broken := by
  have hcalled : Behaves (manners σ tidy) past (call (.contextReady files size) state)
      (fun result final => final = past ++ [.app (.contextReady files size) state (.ok result)])
      Broken := by
    rw [← bind_done (call _ _)]
    exact behaves_call_bind (fun result => behaves_done rfl) (fun cause => broken_concat rfl)
      (fun _ _ _ _ => ⟨h.running, h.fresh⟩) fun _ => ⟨h.running, h.fresh⟩
  refine hcalled.onAbort (fun _ _ => id) fun cause middle hbroken => ?_
  refine (behaves_drop surface).mono ?_ fun _ _ => id
  rintro _ _ rfl
  exact ((hbroken.append _).append _).append _

theorem behaves_openWindow (files : Files) (hentry : runtime.entry = none)
    (hexit : runtime.exitRequested = false) (hfailure : runtime.failure = none)
    (h : Idle tidy past) :
    Behaves (manners σ tidy) past (openWindow files runtime) (Runtime.Phase tidy) Broken := by
  refine (behaves_surface_openWindow runtime.window runtime.context h).bind ?_
  rintro (error | surface) middle hmiddle
  · exact behaves_fail error hentry hmiddle
  replace h : Idle tidy middle := hmiddle
  refine behaves_plain_bind rfl fun size => ?_
  replace h := h.concat (show (Exchange.window .innerSize size).inert = true from rfl)
  refine (behaves_contextReady files size runtime.app surface h).bind ?_
  rintro ⟨failure, state⟩ _ rfl
  cases failure with
  | some reason =>
    refine (behaves_drop surface).bind ?_
    rintro _ _ rfl
    have hrefused := h.concat_refusal
      (show (Exchange.app (.contextReady files size) runtime.app (.ok (some reason, state))).opens
        = false from rfl) rfl rfl
    exact behaves_fail _ hentry hrefused.dropped
  | none =>
    refine behaves_plain_bind rfl fun _ => ?_
    refine behaves_plain_bind rfl fun now => behaves_done ?_
    refine .opened rfl hexit hfailure (Open.concat (Open.concat ?_ rfl) rfl)
    exact h.opened rfl rfl rfl rfl rfl

theorem behaves_resumed (files : Files) (h : runtime.Phase tidy past) :
    Behaves (manners σ tidy) past (resumed files runtime) (Runtime.Phase tidy) Broken := by
  unfold resumed
  cases h with
  | idle hentry hexit hfailure h =>
    rw [hentry, hexit]
    exact behaves_openWindow files hentry hexit hfailure h
  | opened hentry hexit hfailure h =>
    rw [hentry]
    exact behaves_done (.opened hentry hexit hfailure h)
  | ended hentry hexit h =>
    rw [hentry, hexit]
    exact behaves_done (.ended hentry hexit h)

theorem behaves_aboutToWait (h : runtime.Phase tidy past) :
    Behaves (manners σ tidy) past (world runtime.aboutToWait) (Runtime.Phase tidy) broken := by
  unfold Runtime.aboutToWait
  dsimp only
  split
  · rename_i hexit
    cases h with
    | idle hentry hwaits hfailure h => simp [hwaits] at hexit
    | opened hentry hwaits hfailure h => simp [hwaits] at hexit
    | ended hentry hexit h =>
      refine behaves_world_plain_bind rfl fun _ => behaves_done ?_
      exact .ended hentry hexit (h.concat rfl rfl)
  · refine behaves_world_plain_bind rfl fun _ => ?_
    split
    · refine behaves_world_plain_bind rfl fun _ => behaves_done ?_
      exact (h.concat rfl).concat rfl
    · exact behaves_done (h.concat rfl)

end Host

end Shaderbox
