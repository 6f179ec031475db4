import Shaderbox.Proofs.HostPhases

/-!
# Delivering the callbacks of the event loop

Each callback leads from one phase of a run to another, and what a host does about it is in order. A
run delivers them one behind the other, up to the one that aborts it, and then the runtime is
dropped.
-/

namespace Shaderbox

open Interaction Course

variable {σ : Type} {tidy : Prop} {past course : Course σ} {runtime : Runtime σ}

namespace Host

/-- Once a frame was drawn it is shown, and then what belongs to it is cleared. -/
theorem exists_shownFrame_of_yields {entry : WindowEntry} {drawn : Control × WindowEntry × σ}
    {outcome : Except Abort (Runtime σ)}
    (h : Yields ((world (Action.window .announcePresent)).bind fun _ =>
      (world entry.surface.present).bind fun _ => finishFrame runtime drawn) course outcome) :
    ∃ reason? rest, course = shownFrame reason? ++ rest := by
  obtain ⟨control, entry, state⟩ := drawn
  cases h with
  | ask _ _ _ h =>
    cases h with
    | ask _ _ reason? h =>
      cases reason? with
      | none =>
        cases h with
        | ask _ _ _ h => exact ⟨none, _, rfl⟩
      | some reason =>
        cases h with
        | ask _ _ _ h =>
          cases h with
          | ask _ _ _ h => exact ⟨some reason, _, rfl⟩

/-- Whatever comes of it, showing what was drawn leaves the window as it is. -/
theorem behaves_present {entry : WindowEntry} {broken : Abort → Course σ → Prop}
    (surface : Surface) (h : Open entry past) :
    Behaves (manners σ tidy) past (world surface.present) (fun _ => Open entry) broken := by
  refine behaves_world_plain_bind rfl fun reason? => ?_
  cases reason? with
  | none => exact behaves_done (h.concat rfl)
  | some reason => exact behaves_world_log_bind (behaves_done ((h.concat rfl).concat rfl))

/-- Behind a frame the run goes on with the input of the next one, or it is over. -/
theorem behaves_finishFrame (control : Control) (entry : WindowEntry) (state : σ)
    (hexit : runtime.exitRequested = false) (hfailure : runtime.failure = none)
    (hheld : Held past)
    (hopen : control = .continue →
      Open { entry with events := entry.events.beginFrame } past) :
    Behaves (manners σ tidy) past (finishFrame runtime (control, entry, state))
      (Runtime.Phase tidy) Broken := by
  refine behaves_ask (fun _ _ _ _ => ⟨rfl, nofun⟩) fun _ => ?_
  cases control with
  | exit =>
    refine behaves_shutDown ⟨fun hnone => by contradiction, fun _ => ⟨hfailure, ?_⟩⟩
    exact hheld.concat_inert rfl
  | «continue» => exact behaves_done (.opened rfl hexit hfailure ((hopen rfl).concat rfl))

/-- A frame is called for with the input since the window was opened, and shown. -/
theorem behaves_drawFrame {entry : WindowEntry} (hexit : runtime.exitRequested = false)
    (hfailure : runtime.failure = none) (h : Open entry past)
    (hgoes : entry.events.data.exitRequested = false) :
    Behaves (manners σ tidy) past
      ((drawFrame entry runtime.app).bind (finishFrame runtime)) (Runtime.Phase tidy) Broken := by
  simp only [drawFrame, bind_eq, Interaction.bind_assoc]
  refine behaves_plain_bind rfl fun now => ?_
  replace h := h.concat (show (Exchange.window .now now).inert = true from rfl)
  have hfits (answer : Except Abort (Control × σ)) (back : Course σ)
      (hshown : ∀ result, answer = .ok result → ∃ reason? rest, back = shownFrame reason? ++ rest) :
      FrameFits (past ++ [.window .now now]) ⟨entry.events.data, (entry.clock.tick now).1⟩ answer
        back := by
    refine ⟨h.held, ?_, ?_, ?_, h.index, hshown⟩
    · rw [h.escaped]
      rwa [h.events] at hgoes
    · rw [h.events]
      rfl
    · rw [h.moved, h.events]
      rfl
  refine behaves_call_bind ?_ (fun cause => broken_concat rfl)
    (fun result course outcome hyields => ⟨h.running, hfits _ _ fun _ _ => ?_⟩)
    (fun cause => ⟨h.running, hfits _ _ fun _ hreturned => by contradiction⟩)
  · rintro ⟨control, state⟩
    replace h := h.frame now ⟨entry.events.data, (entry.clock.tick now).1⟩ runtime.app
      (.ok (control, state))
    refine behaves_plain_bind rfl fun _ => ?_
    replace h := h.concat (show (Exchange.window .announcePresent ()).inert = true from rfl)
    refine (behaves_present entry.surface h).bind fun _ middle hmiddle => ?_
    exact behaves_finishFrame control _ state hexit hfailure hmiddle.toHeld fun _ => hmiddle
  · exact exists_shownFrame_of_yields hyields

theorem behaves_redraw (h : runtime.Phase tidy past) :
    Behaves (manners σ tidy) past (redraw runtime) (Runtime.Phase tidy) Broken := by
  unfold redraw
  cases h with
  | idle hentry hexit hfailure h =>
    rw [hentry]
    exact behaves_done (.idle hentry hexit hfailure h)
  | ended hentry hexit h =>
    rw [hentry]
    exact behaves_done (.ended hentry hexit h)
  | opened hentry hexit hfailure h =>
    rw [hentry]
    dsimp only
    split
    · exact behaves_finishFrame .exit _ _ hexit hfailure h.toHeld nofun
    · rename_i hgoes
      exact behaves_drawFrame hexit hfailure h (Bool.eq_false_iff.mpr hgoes)

/-- The surface follows a size, and the window stays as it is otherwise. -/
theorem behaves_resize {entry : WindowEntry} {broken : Abort → Course σ → Prop} (size : PixelSize)
    (h : runtime.Phase tidy past) (hentry : runtime.entry = some entry) :
    Behaves (manners σ tidy) past (world (runtime.resize size entry)) (Runtime.Phase tidy)
      broken := by
  obtain ⟨hexit, hfailure, h⟩ := h.of_entry hentry
  have hresized : Behaves (manners σ tidy) past (world (entry.surface.resize size))
      (fun _ => Open entry) broken := by
    unfold Surface.resize
    dsimp only
    split
    · exact behaves_done h
    · refine behaves_world_plain_bind rfl fun _ => ?_
      exact behaves_world_graphics_bind fun _ => behaves_done ((h.concat rfl).concat rfl)
  unfold Runtime.resize
  rw [bind_eq, world_bind]
  refine hresized.bind fun surface middle hmiddle => behaves_done ?_
  exact .opened rfl hexit hfailure (hmiddle.withSurface surface)

/-- An event that was delivered is taken in before the application is called with it. -/
theorem behaves_deliverInput (files : Files) (event : WindowEvent) (h : runtime.Phase tidy past)
    (hexit : runtime.exitRequested = false) :
    Behaves (manners σ tidy) (past ++ [.delivered (.windowEvent event)])
      (deliverInput files event runtime)
      (fun answer final => answer.2.Phase tidy final ∧ answer.2.exitRequested = false) Broken := by
  unfold deliverInput
  cases h with
  | idle hentry hexit hfailure h =>
    rw [hentry]
    exact behaves_done ⟨.idle hentry hexit hfailure (h.delivered _), hexit⟩
  | ended hentry hover h => simp [hexit] at hover
  | @opened entry hentry hexit hfailure h =>
    rw [hentry]
    refine behaves_plain_bind rfl fun scaleFactor => ?_
    cases hinput : event.input scaleFactor with
    | error cause =>
      exact behaves_abort (broken_concat (WindowEvent.isNormalPositive_of_input_error hinput))
    | ok input? =>
      cases input? with
      | none =>
        refine behaves_done ⟨.opened hentry hexit hfailure ?_, hexit⟩
        exact (h.concat (inert_delivered hinput)).concat rfl
      | some input =>
        have hcalled (answer : Except Abort (Control × σ)) (back : Course σ) :
            InOrder tidy (past ++ [.delivered (.windowEvent event)] ++
              [.window .scaleFactor scaleFactor]) (.app (.input files input) runtime.app answer)
              back := by
          have hheld : Held (past ++ [.delivered (.windowEvent event)] ++
              [.window .scaleFactor scaleFactor]) :=
            (h.toHeld.concat rfl rfl rfl rfl rfl).concat_inert rfl
          exact ⟨hheld.running, hheld.held, past, event, scaleFactor, hinput, rfl⟩
        refine behaves_call_bind ?_ (fun cause => broken_concat rfl)
          (fun result _ _ _ => hcalled _ _) (fun cause => hcalled _ _)
        rintro ⟨control, state⟩
        refine behaves_done ⟨.opened rfl hexit hfailure ?_, hexit⟩
        exact h.handle hinput files runtime.app _

theorem behaves_react (event : WindowEvent) (h : runtime.Phase tidy past) :
    Behaves (manners σ tidy) past (react event runtime) (Runtime.Phase tidy) Broken := by
  unfold react
  split
  · exact behaves_shutDown h.mayClose
  · rename_i size entry hentry
    refine (behaves_resize size h hentry).bind fun next middle hnext => ?_
    exact behaves_plain_bind rfl fun _ => behaves_done (hnext.concat rfl)
  · rename_i entry hentry
    refine behaves_plain_bind rfl fun size => ?_
    exact behaves_resize size (h.concat rfl) hentry
  · exact behaves_redraw h
  · exact behaves_done h

theorem behaves_windowEvent (files : Files) (event : WindowEvent) (h : runtime.Phase tidy past) :
    Behaves (manners σ tidy) (past ++ [.delivered (.windowEvent event)])
      (windowEvent files event runtime) (Runtime.Phase tidy) Broken := by
  unfold windowEvent
  split
  · rename_i hexit
    refine behaves_done ?_
    cases h with
    | idle hentry hwaits hfailure h => simp [hwaits] at hexit
    | opened hentry hwaits hfailure h => simp [hwaits] at hexit
    | ended hentry hexit h => exact .ended hentry hexit (h.concat rfl rfl)
  · rename_i hexit
    refine (behaves_deliverInput files event h (Bool.eq_false_iff.mpr hexit)).bind ?_
    rintro ⟨control, next⟩ middle ⟨hnext, hgoes⟩
    cases control with
    | exit => exact behaves_shutDown hnext.mayClose
    | «continue» =>
      have hrunning := hnext.running hgoes
      refine behaves_call_bind ?_ (fun cause => broken_concat rfl) (fun _ _ _ _ => hrunning)
        fun _ => hrunning
      rintro ⟨control, state⟩
      have hstate : Runtime.Phase tidy { next with app := state }
          (middle ++ [.app (.windowEvent event) next.app (.ok (control, state))]) :=
        (hnext.concat rfl).withApp state
      cases control with
      | exit => exact behaves_shutDown hstate.mayClose
      | «continue» => exact behaves_react event hstate

/-- Without anything delivered behind it, nothing is said of a run that is about to end. -/
theorem behaves_exiting (h : runtime.Phase tidy past) :
    Behaves (manners σ tidy) (past ++ [.delivered .exiting]) (closeWindow runtime)
      (fun next final => (¬ tidy → next.Phase tidy final) ∧
        final.any Exchange.failsOpening = next.failure.isSome) Broken := by
  refine (behaves_closeWindow (h.mayClose.concat rfl rfl rfl rfl rfl)).mono ?_ fun _ _ => id
  rintro next final ⟨hnext, hdown, hexits⟩
  replace hexits : final.any Exchange.exits = past.any Exchange.exits := by
    rw [hexits, any_concat]
    rfl
  refine ⟨fun hwild => ?_, by rw [hnext]; exact hdown.refused⟩
  rw [hnext]
  cases hexit : runtime.exitRequested with
  | true => exact .ended rfl rfl hdown
  | false =>
    have hfailure : runtime.failure = none := by
      cases h with
      | idle hentry hexit hfailure h => exact hfailure
      | opened hentry hexit hfailure h => exact hfailure
      | ended hentry hover h => simp [hover] at hexit
    rw [hfailure] at hdown
    exact .idle rfl rfl hfailure
      ⟨⟨hdown, hexits.trans (h.running hexit)⟩, fun htidy => absurd htidy hwild⟩

/-- Letting go of what a run holds is in order wherever it stands. -/
theorem behaves_release (runtime : Runtime σ) :
    Behaves (manners σ tidy) past (release runtime)
      (fun _ final => past <+: final ∧
        final.any Exchange.failsOpening = past.any Exchange.failsOpening)
      Broken := by
  obtain ⟨window, context, state, entry, exitRequested, failure⟩ := runtime
  refine behaves_ask (fun _ _ _ _ => ⟨rfl, nofun⟩) fun answer => ?_
  cases answer with
  | error cause => exact behaves_abort (broken_concat rfl)
  | ok _ =>
    cases entry with
    | none =>
      refine behaves_done ⟨List.prefix_append _ _, ?_⟩
      rw [any_concat]
      rfl
    | some entry =>
      refine (behaves_drop entry.surface).mono ?_ fun _ _ => id
      rintro _ _ rfl
      constructor
      · simp only [List.append_assoc]
        exact List.prefix_append _ _
      · rw [any_concat, any_concat, any_concat, any_concat]
        rfl

/-- A window event that is delivered while the window is open is made an input event first. -/
theorem isHandedOn_of_yields {files : Files} {event : WindowEvent} {entry : WindowEntry}
    {outcome : Except Abort (Runtime σ)} (hentry : runtime.entry = some entry)
    (hexit : runtime.exitRequested = false)
    (h : Yields (windowEvent files event runtime) course outcome) : IsHandedOn event course := by
  have hinput (course : Course σ) (outcome : Except Abort (Control × Runtime σ))
      (h : Yields (deliverInput files event runtime) course outcome) : IsHandedOn event course := by
    unfold deliverInput at h
    rw [hentry] at h
    cases h with
    | ask _ _ scaleFactor h =>
      refine ⟨scaleFactor, _, rfl, fun input hmade => ?_⟩
      change Yields ((ofExcept (event.input scaleFactor)).bind _) _ _ at h
      rw [hmade] at h
      cases h with
      | ask _ _ answer h => exact ⟨files, runtime.app, answer, _, rfl⟩
  unfold windowEvent at h
  rw [if_neg (by simp [hexit])] at h
  exact begins_of_yields_bind (fun _ more h => h.append more) hinput h

/-- The delivery of a callback leaves the run as it should be between two callbacks. Behind the last
one this need not be so where the event loop had announced its end. -/
theorem behaves_deliver (files : Files) (callback : LoopCallback) (h : runtime.Phase tidy past) :
    Behaves (manners σ tidy) (past ++ [.delivered callback]) (deliver files callback runtime)
      (fun next final => ((tidy → callback ≠ .exiting) → next.Phase tidy final) ∧
        final.any Exchange.failsOpening = next.failure.isSome) Broken := by
  have hphase {program : Hosted σ (Runtime σ)}
      (hprogram : Behaves (manners σ tidy) (past ++ [.delivered callback]) program
        (Runtime.Phase tidy) Broken) :
      Behaves (manners σ tidy) (past ++ [.delivered callback]) program
        (fun next final => ((tidy → callback ≠ .exiting) → next.Phase tidy final) ∧
          final.any Exchange.failsOpening = next.failure.isSome) Broken :=
    hprogram.mono (fun _ _ hnext => ⟨fun _ => hnext, hnext.refused⟩) fun _ _ => id
  cases callback with
  | resumed => exact hphase (behaves_resumed files (h.concat rfl))
  | windowEvent event => exact hphase (behaves_windowEvent files event h)
  | aboutToWait => exact hphase (behaves_aboutToWait (h.concat rfl))
  | exiting =>
    refine (behaves_exiting h).mono ?_ fun _ _ => id
    rintro next final ⟨hnext, hrefused⟩
    exact ⟨fun hlast => hnext fun htidy => hlast htidy rfl, hrefused⟩

/-- The callbacks of the event loop are delivered in good manners, one after the other. -/
theorem behaves_deliverAll (callbacks : List (Files × LoopCallback))
    (hquiet : tidy → LoopCallback.exiting ∉ callbacks.dropLast.map Prod.snd)
    (h : runtime.Phase tidy past) :
    Behaves (manners σ tidy) past (deliverAll callbacks runtime)
      (fun next final => final.any Exchange.failsOpening = next.failure.isSome) Broken := by
  induction callbacks generalizing runtime past with
  | nil => exact behaves_done h.refused
  | cons first rest ih =>
    obtain ⟨files, callback⟩ := first
    refine behaves_ask (fun _ course outcome hyields => ?_) fun _ => ?_
    · cases callback with
      | windowEvent event =>
        refine ⟨rfl, fun hheld => ?_⟩
        obtain ⟨hexit, entry, hentry⟩ := h.of_held hheld
        change Yields (((windowEvent files event runtime).onAbort (release runtime)).bind _) _ _
          at hyields
        refine begins_of_yields_bind (fun _ more h => h.append more) (fun _ _ hfirst => ?_) hyields
        exact begins_of_yields_onAbort (fun _ more h => h.append more)
          (fun _ _ => isHandedOn_of_yields hentry hexit) hfirst
      | exiting =>
        refine ⟨rfl, ?_⟩
        change Yields (((closeWindow runtime).onAbort (release runtime)).bind _) _ _ at hyields
        refine begins_of_yields_bind (fun _ more h => h.append more) (fun _ _ hfirst => ?_) hyields
        exact begins_of_yields_onAbort (fun _ more h => h.append more)
          (fun _ _ => isTornDown_of_yields_closeWindow h.mayClose) hfirst
      | _ => exact ⟨rfl, nofun⟩
    have hdelivered : Behaves (manners σ tidy) (past ++ [.delivered callback])
        ((deliver files callback runtime).onAbort (release runtime))
        (fun next final => ((tidy → callback ≠ .exiting) → next.Phase tidy final) ∧
          final.any Exchange.failsOpening = next.failure.isSome) Broken := by
      refine (behaves_deliver files callback h).onAbort (fun _ _ => id) ?_
      intro cause middle hbroken
      refine (behaves_release runtime).mono ?_ fun _ _ => id
      rintro _ _ ⟨⟨more, rfl⟩, -⟩
      exact hbroken.append more
    refine hdelivered.bind fun next middle ⟨hnext, hrefused⟩ => ?_
    cases rest with
    | nil => exact behaves_done hrefused
    | cons second others =>
      rw [List.dropLast_cons_cons, List.map_cons] at hquiet
      exact ih (fun htidy hmem => hquiet htidy (.tail _ hmem))
        (hnext fun htidy hlast => hquiet htidy (hlast ▸ .head _))

/-- The end of the event loop is told just once. -/
theorem eventLoopResult_mem_iff {reason? : Option String} {inner last : Course σ}
    (hinner : ∀ exchange ∈ inner, exchange.isInner = true)
    (hlast : ∀ exchange ∈ last, exchange.isInner = true) :
    Exchange.window .eventLoopResult none ∈ [.window .openEventLoop none] ++ inner ++
        [.window .eventLoopResult reason?] ++ last ↔ reason? = none := by
  have houter {exchanges : Course σ} (h : ∀ exchange ∈ exchanges, exchange.isInner = true) :
      Exchange.window .eventLoopResult none ∉ exchanges :=
    fun hmem => Bool.false_ne_true (h _ hmem)
  simp [houter hinner, houter hlast, eq_comm]

/-- A run returns what its course tells: it went well if the event loop began and ended well and no
step on the way to an open window failed. -/
theorem behaves_run (window : WindowSettings) (context : ContextSettings) (state : σ)
    (callbacks : List (Files × LoopCallback))
    (hquiet : tidy → LoopCallback.exiting ∉ callbacks.dropLast.map Prod.snd) :
    Behaves (orders σ tidy) [] (run window context state callbacks)
      (fun result final => result = .ok () ↔ WentWell final) Broken := by
  refine behaves_ask (fun _ _ _ _ => nofun) fun reason? => ?_
  cases reason? with
  | some reason =>
    refine behaves_ask (fun _ _ _ _ => nofun) fun answer => ?_
    cases answer with
    | error cause => exact behaves_abort (broken_concat rfl)
    | ok _ =>
      refine behaves_done ⟨nofun, fun ⟨hopened, _⟩ => ?_⟩
      simp at hopened
  | none =>
    have hphase : Runtime.Phase tidy { window, context, app := state }
        [.window .openEventLoop none] :=
      .idle rfl rfl rfl ⟨⟨⟨rfl, rfl, nofun⟩, rfl⟩, fun _ => rfl⟩
    refine (behaves_orders (behaves_deliverAll callbacks hquiet hphase)).bind ?_
    rintro runtime _ ⟨hrefused, inner, rfl, hinner⟩
    -- the result is made of how the event loop ended and of the error that was remembered
    refine behaves_ask (fun _ _ _ _ => nofun) fun reason? => ?_
    have hreleased (result : Except RunError Unit)
        (hresult : result = .ok () ↔ reason? = none ∧ runtime.failure = none) :
        Behaves (orders σ tidy) ([.window .openEventLoop none] ++ inner ++
            [.window .eventLoopResult reason?])
          ((release runtime).bind fun _ => .done result)
          (fun result final => result = .ok () ↔ WentWell final) Broken := by
      refine (behaves_orders (behaves_release runtime)).bind ?_
      rintro _ _ ⟨⟨-, hreleased⟩, last, rfl, hlast⟩
      refine behaves_done ?_
      rw [hresult, WentWell, eventLoopResult_mem_iff hinner hlast, hreleased, any_concat, hrefused]
      simp [Exchange.failsOpening]
    cases reason? with
    | some reason => exact hreleased _ (by simp)
    | none =>
      refine hreleased _ ?_
      cases runtime.failure with
      | none => simp
      | some error => simp

end Host

end Shaderbox
