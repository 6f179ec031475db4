import Shaderbox.Proofs.HostManners
import Shaderbox.Proofs.SizeCourse
import Shaderbox.Simulation.World

/-!
# Surface and viewport in step

Of all that a runtime does, only to open a window and to react to two kinds of events has to do with
its size. The programs in between are passive: they keep the account of sizes, whatever they are
answered and even if they close the window. So between two callbacks of the event loop an open
window shows its sizes, and nowhere is the surface resized without the viewport.
-/

namespace Shaderbox

open Interaction Course

variable {σ α β : Type}

/-- The demand that the surface is resized for sizes with an area only, and that the viewport
follows at once. -/
def inStep (σ : Type) : Etiquette (Hosting σ) where
  Holds _ exchange back := ∀ size, exchange.resized? = some size →
    size.nonzero? = some size ∧ ∃ rest, back = .covering size :: rest
  lasts more h size hresized := by
    obtain ⟨harea, rest, rfl⟩ := h size hresized
    exact ⟨harea, rest ++ more, rfl⟩

/-- The demand that nothing has to do with sizes, nor with events for the application. -/
def passivity (σ : Type) : Etiquette (Hosting σ) where
  Holds _ exchange _ := exchange.isPassive = true
  lasts _ h := h

/-- Whether a program has nothing to do with sizes, nor with events for the application, and its
results are as specified. -/
def Passive (program : Hosted σ α) (spec : α → Prop) : Prop :=
  ∀ past, Behaves (passivity σ) past program (fun result _ => spec result) fun _ _ => True

section Rules

variable {spec : α → Prop}

theorem passive_done {result : α} (h : spec result) : Passive (σ := σ) (.done result) spec :=
  fun _ => behaves_done h

theorem passive_abort {cause : Abort} : Passive (σ := σ) (.abort cause) spec :=
  fun _ => behaves_abort trivial

theorem passive_ask {request : HostRequest σ} {resume : request.Answer → Hosted σ α}
    (hpassive : ∀ answer, (⟨request, answer⟩ : Exchange (Hosting σ)).isPassive = true)
    (hresume : ∀ answer, Passive (resume answer) spec) :
    Passive (.ask (I := Hosting σ) request resume) spec :=
  fun _ => behaves_ask (fun answer _ _ _ => hpassive answer) fun answer => hresume answer _

theorem Passive.bind {program : Hosted σ β} {next : β → Hosted σ α} {between : β → Prop}
    (h : Passive program between) (hnext : ∀ result, between result → Passive (next result) spec) :
    Passive (program.bind next) spec :=
  fun past => (h past).bind fun result middle hresult => hnext result hresult middle

theorem Passive.isPassive {program : Hosted σ α} (h : Passive program spec) {course : Course σ}
    {outcome : Except Abort α} (hyields : Yields program course outcome) :
    ∀ exchange ∈ course, exchange.isPassive = true := by
  intro exchange hmem
  obtain ⟨front, back, rfl⟩ := List.append_of_mem hmem
  exact (h [] _ _ hyields).1.holds

theorem Passive.mono {program : Hosted σ α} {weaker : α → Prop} (h : Passive program spec)
    (hweaker : ∀ result, spec result → weaker result) : Passive program weaker :=
  fun past => (h past).mono (fun result _ => hweaker result) fun _ _ => id

end Rules

/-- The size in use, while a window is open. -/
def Runtime.inUse (runtime : Runtime σ) : Option PixelSize :=
  runtime.entry.map fun entry => entry.surface.size

/-- Whether the size in use is what it was, unless the window is closed. -/
def Runtime.KeepsSize (runtime next : Runtime σ) : Prop :=
  ∀ size, next.inUse = some size → runtime.inUse = some size

/-- What is left by an attempt to make a window: its viewport covers it, or there is none. -/
def WindowMade : Except WindowError Surface → Course σ → Prop
  | .ok surface, past => Covers surface.size past
  | .error _, _ => True

/-- Whether a runtime with an open window shows its sizes. -/
def Runtime.Shown (runtime : Runtime σ) (past : Course σ) : Prop :=
  ∀ size, runtime.inUse = some size → Shows size past

theorem Runtime.keepsSize_of_closed {runtime next : Runtime σ} (h : next.inUse = none) :
    runtime.KeepsSize next := by
  intro size hsize
  rw [h] at hsize
  contradiction

/-- What has nothing to do with sizes leaves the account as it is. -/
theorem Runtime.Shown.concat {runtime : Runtime σ} {past : Course σ}
    {exchange : Exchange (Hosting σ)} (h : runtime.Shown past) (hstill : exchange.isStill = true) :
    runtime.Shown (past ++ [exchange]) :=
  fun size hsize => (h size hsize).concat_still hstill

namespace Host

variable {runtime : Runtime σ} {entry : WindowEntry} {past : Course σ}

section Passivity

theorem passive_drop (surface : Surface) : Passive (σ := σ) (world surface.drop) fun _ => True :=
  passive_ask (fun _ => rfl) fun _ => passive_ask (fun _ => rfl) fun _ =>
    passive_ask (fun _ => rfl) fun _ => passive_done trivial

theorem passive_closeWindow (runtime : Runtime σ) :
    Passive (closeWindow runtime) fun next => next.inUse = none := by
  obtain ⟨window, context, state, entry, exitRequested, failure⟩ := runtime
  cases entry with
  | none => exact passive_done rfl
  | some entry =>
    refine passive_ask (fun _ => rfl) fun answer => ?_
    cases answer with
    | error cause => exact passive_abort
    | ok result => exact (passive_drop entry.surface).bind fun _ _ => passive_done rfl

theorem passive_shutDown (runtime : Runtime σ) :
    Passive (shutDown runtime) fun next => next.inUse = none :=
  passive_ask (fun _ => rfl) fun _ => (passive_closeWindow runtime).bind fun _ hclosed =>
    passive_ask (fun _ => rfl) fun _ => passive_done hclosed

theorem passive_fail (error : WindowError) (runtime : Runtime σ) :
    Passive (fail error runtime) fun next => next.inUse = none :=
  passive_ask (fun _ => rfl) fun _ => passive_shutDown _

theorem passive_release (runtime : Runtime σ) : Passive (release runtime) fun _ => True := by
  refine passive_ask (fun _ => rfl) fun answer => ?_
  cases answer with
  | error cause => exact passive_abort
  | ok _ =>
    obtain ⟨window, context, state, entry, exitRequested, failure⟩ := runtime
    cases entry with
    | none => exact passive_done trivial
    | some entry => exact passive_drop entry.surface

theorem passive_aboutToWait (runtime : Runtime σ) :
    Passive (σ := σ) (world runtime.aboutToWait) runtime.KeepsSize := by
  obtain ⟨window, context, state, entry, exitRequested, failure⟩ := runtime
  cases exitRequested with
  | true => exact passive_ask (fun _ => rfl) fun _ => passive_done fun _ => id
  | false =>
    refine passive_ask (fun _ => rfl) fun _ => ?_
    cases entry with
    | none => exact passive_done fun _ => id
    | some entry => exact passive_ask (fun _ => rfl) fun _ => passive_done fun _ => id

theorem passive_drawFrame (entry : WindowEntry) (state : σ) :
    Passive (drawFrame entry state) fun drawn => drawn.2.1.surface = entry.surface := by
  refine passive_ask (fun _ => rfl) fun now => passive_ask (fun _ => rfl) fun answer => ?_
  cases answer with
  | error cause => exact passive_abort
  | ok result =>
    refine passive_ask (fun _ => rfl) fun _ => passive_ask (fun _ => rfl) fun reason? => ?_
    cases reason? with
    | none => exact passive_done rfl
    | some reason => exact passive_ask (fun _ => rfl) fun _ => passive_done rfl

theorem passive_finishFrame (hentry : runtime.entry = some entry)
    {drawn : Control × WindowEntry × σ} (hdrawn : drawn.2.1.surface = entry.surface) :
    Passive (finishFrame runtime drawn) runtime.KeepsSize := by
  obtain ⟨control, shown, state⟩ := drawn
  refine passive_ask (fun _ => rfl) fun _ => ?_
  cases control with
  | exit => exact (passive_shutDown _).mono fun _ => Runtime.keepsSize_of_closed
  | «continue» =>
    refine passive_done fun size hsize => ?_
    rw [← hsize, Runtime.inUse, hentry]
    exact congrArg (fun surface => some surface.size) hdrawn.symm

theorem passive_redraw (runtime : Runtime σ) : Passive (redraw runtime) runtime.KeepsSize := by
  unfold redraw
  split
  · exact passive_done fun _ => id
  · rename_i entry hentry
    split
    · exact passive_finishFrame hentry rfl
    · exact (passive_drawFrame entry runtime.app).bind fun drawn hdrawn =>
        passive_finishFrame hentry hdrawn

end Passivity

section Sizes

variable {after : α → Course σ → Prop} {broken : Abort → Course σ → Prop}

theorem inStep_of_isStill {exchange : Exchange (Hosting σ)} (h : exchange.isStill = true)
    (back : Course σ) : (inStep σ).Holds past exchange back := by
  intro size hresized
  obtain ⟨-, -, -, -, hnone⟩ := Exchange.isStill_iff.mp h
  rw [hnone] at hresized
  contradiction

/-- An exchange that has nothing to do with sizes is in step anywhere. -/
theorem inStep_still {request : HostRequest σ} {resume : request.Answer → Hosted σ α}
    (hstill : ∀ answer, (⟨request, answer⟩ : Exchange (Hosting σ)).isStill = true)
    (hresume : ∀ answer, Behaves (inStep σ) (past ++ [⟨request, answer⟩]) (resume answer) after
      broken) :
    Behaves (inStep σ) past (.ask (I := Hosting σ) request resume) after broken :=
  behaves_ask (fun answer course _ _ => inStep_of_isStill (hstill answer) course) hresume

/-- What a passive program exchanges has nothing to do with sizes, so it is in step. -/
theorem inStep_passive {program : Hosted σ α} {spec : α → Prop} (h : Passive program spec)
    (hafter : ∀ result more, spec result → (∀ exchange ∈ more, exchange.isStill = true) →
      after result (past ++ more)) :
    Behaves (inStep σ) past program after fun _ _ => True := by
  intro course outcome hyields
  obtain ⟨hobserved, hconcludes⟩ := h past course outcome hyields
  refine ⟨hobserved.mono fun _ _ back hpassive =>
    inStep_of_isStill (Exchange.isPassive_iff.mp hpassive).1 back, ?_⟩
  cases outcome with
  | error cause => trivial
  | ok result =>
    exact hafter result course hconcludes fun exchange hmem =>
      (Exchange.isPassive_iff.mp (h.isPassive hyields exchange hmem)).1

/-- A passive program that keeps the size in use, or closes the window, keeps the account. -/
theorem inStep_keeping {program : Hosted σ (Runtime σ)}
    (hpassive : Passive program runtime.KeepsSize) (h : runtime.Shown past) :
    Behaves (inStep σ) past program Runtime.Shown fun _ _ => True :=
  inStep_passive hpassive fun _ _ hkeeps hstill size hsize =>
    (h size (hkeeps size hsize)).append_still hstill

/-- Behind a passive program that closes the window there is nothing to account for. -/
theorem inStep_closing {program : Hosted σ (Runtime σ)}
    (hpassive : Passive program fun next => next.inUse = none) :
    Behaves (inStep σ) past program Runtime.Shown fun _ _ => True := by
  refine inStep_passive hpassive fun next more hclosed _ size hsize => ?_
  rw [hclosed] at hsize
  contradiction

/-- To follow a size takes its two exchanges, or none, and always comes to an end. -/
theorem yields_resize {size : PixelSize} {course : Course σ} {outcome : Except Abort (Runtime σ)}
    (h : Yields (world (runtime.resize size entry)) course outcome) :
    course = following size ∧
      outcome = .ok { runtime with entry := some { entry with surface := ⟨size⟩ } } := by
  unfold Runtime.resize Surface.resize at h
  unfold following
  cases hnonzero : size.nonzero? with
  | none =>
    simp only [hnonzero] at h
    cases h
    exact ⟨rfl, rfl⟩
  | some area =>
    obtain ⟨-, -, rfl⟩ := PixelSize.nonzero?_eq_some_iff.mp hnonzero
    simp only [hnonzero] at h
    cases h with
    | ask _ _ _ h =>
      cases h with
      | ask _ _ _ h =>
        cases h
        exact ⟨rfl, rfl⟩

theorem observed_following (size : PixelSize) : (inStep σ).Observed past (following size) := by
  unfold following
  cases hnonzero : size.nonzero? with
  | none => trivial
  | some area =>
    refine ⟨fun other hresized => ?_, fun other hresized => ?_, trivial⟩
    · obtain rfl := Option.some.inj hresized
      obtain ⟨-, -, rfl⟩ := PixelSize.nonzero?_eq_some_iff.mp hnonzero
      exact ⟨hnonzero, [], rfl⟩
    · contradiction

/-- A size that was just given is followed. -/
theorem inStep_resize {exchange : Exchange (Hosting σ)} {size inUse : PixelSize}
    (h : Shows inUse past) (hgiven : exchange.given? = some size)
    (hopens : exchange.opens = false) (hcreates : exchange.createsWindow = false)
    (hdisplays : exchange.displays = false) :
    Behaves (inStep σ) (past ++ [exchange]) (world (runtime.resize size entry)) Runtime.Shown
      fun _ _ => True := by
  intro course outcome hyields
  obtain ⟨rfl, rfl⟩ := yields_resize hyields
  refine ⟨observed_following size, fun other hother => ?_⟩
  obtain rfl := Option.some.inj hother
  rw [List.append_assoc]
  exact h.append_given hgiven hopens hcreates hdisplays

/-- What the runtime does about an event that the application let pass follows a size, or is
passive. -/
theorem inStep_react {event : WindowEvent} {state next : σ} (h : runtime.Shown past) :
    Behaves (inStep σ) (past ++ [.app (.windowEvent event) state (.ok (.continue, next))])
      (react event runtime) Runtime.Shown fun _ _ => True := by
  unfold react
  split
  · exact inStep_closing (passive_shutDown runtime)
  · rename_i size entry hentry
    have hshows : Shows entry.surface.size past := h _ (by rw [Runtime.inUse, hentry]; rfl)
    refine (inStep_resize hshows rfl rfl rfl rfl).bind fun resized middle hresized => ?_
    exact inStep_keeping (passive_ask (fun _ => rfl) fun _ => passive_done fun _ => id) hresized
  · rename_i entry hentry
    refine behaves_ask (fun _ _ _ _ => nofun) fun size => ?_
    have hshows : Shows entry.surface.size
        (past ++ [.app (.windowEvent .scaleFactorChanged) state (.ok (.continue, next))]) :=
      h.concat rfl _ (by rw [Runtime.inUse, hentry]; rfl)
    exact inStep_resize hshows rfl rfl rfl rfl
  · exact inStep_keeping (passive_redraw runtime) (h.concat rfl)
  · rename_i event _ _ _ _ hresized _
    refine behaves_done fun size hsize => ?_
    obtain ⟨entry, hentry, -⟩ := Option.map_eq_some_iff.mp hsize
    cases event with
    | resized given => exact (hresized given entry rfl hentry).elim
    | _ => exact h.concat rfl size hsize

/-- To take in an event has nothing to do with sizes. -/
theorem inStep_deliverInput (files : Files) (event : WindowEvent) (h : runtime.Shown past) :
    Behaves (inStep σ) past (deliverInput files event runtime) (fun answer => answer.2.Shown)
      fun _ _ => True := by
  unfold deliverInput
  split
  · exact behaves_done h
  · rename_i entry hentry
    refine behaves_window_bind fun scaleFactor => ⟨fun _ => nofun, ?_⟩
    cases hinput : event.input scaleFactor with
    | error cause => exact behaves_abort trivial
    | ok input? =>
      cases input? with
      | none => exact behaves_done (h.concat rfl)
      | some input =>
        refine inStep_still (fun _ => rfl) fun answer => ?_
        cases answer with
        | error cause => exact behaves_abort trivial
        | ok result =>
          refine behaves_done fun size hsize => (h.concat rfl).concat rfl size ?_
          rw [Runtime.inUse, hentry]
          exact hsize

/-- An event that is delivered changes the size in use by what the runtime does about it only. -/
theorem inStep_windowEvent (files : Files) (event : WindowEvent) (h : runtime.Shown past) :
    Behaves (inStep σ) past (windowEvent files event runtime) Runtime.Shown fun _ _ => True := by
  unfold windowEvent
  split
  · exact behaves_done h
  · refine (inStep_deliverInput files event h).bind ?_
    rintro ⟨control, heard⟩ middle hheard
    cases control with
    | exit => exact inStep_closing (passive_shutDown heard)
    | «continue» =>
      refine behaves_ask (fun _ _ _ _ => nofun) fun answer => ?_
      cases answer with
      | error cause => exact behaves_abort trivial
      | ok result =>
        obtain ⟨control, state⟩ := result
        cases control with
        | exit => exact inStep_closing (passive_shutDown _)
        | «continue» => exact inStep_react hheard

theorem passive_surface_fail (error : WindowError) {dropped : List WindowCall}
    (hdropped : ∀ call ∈ dropped, call ∈ [.dropSurface, .dropContext, .dropWindow]) :
    Passive (σ := σ) (world (Surface.fail dropped error))
      fun result : Except WindowError Surface => result = .error error := by
  induction dropped with
  | nil => exact passive_done rfl
  | cons call rest ih =>
    obtain ⟨hcall, hrest⟩ := List.forall_mem_cons.mp hdropped
    obtain rfl | rfl | rfl :
      call = .dropSurface ∨ call = .dropContext ∨ call = .dropWindow := by simpa using hcall
    all_goals exact passive_ask (fun _ => rfl) fun _ => ih hrest

/-- What comes of making a context current in a window: its viewport covers it, or all was dropped
again. -/
theorem inStep_attach (settings : ContextSettings) (config : Nat) (h : IsFresh past) :
    Behaves (inStep σ) past (world (Surface.attach settings config)) WindowMade
      fun _ _ => True := by
  have hfailed {past : Course σ} (dropped : List WindowCall) (error : WindowError)
      (hdropped : ∀ call ∈ dropped, call ∈ [.dropSurface, .dropContext, .dropWindow]) :
      Behaves (inStep σ) past
        (world ((Surface.fail dropped error).bind fun result => .done result)) WindowMade
        fun _ _ => True := by
    rw [bind_done]
    refine inStep_passive (passive_surface_fail error hdropped) fun result more hresult _ => ?_
    rw [hresult]
    trivial
  -- the window is current: what is still asked cannot fail
  have hcurrent {past : Course σ} (h : IsFresh past) :
      Behaves (inStep σ) past (world (do
        let version ← Action.window .graphicsVersion
        let renderer ← Action.window .rendererName
        Action.log .info s!"OpenGL {version} on {renderer}"
        let surface := Surface.mk (← Action.window .innerSize)
        surface.applyViewport
        return (.ok surface : Except WindowError Surface))) WindowMade fun _ _ => True := by
    refine inStep_still (fun _ => rfl) fun version => inStep_still (fun _ => rfl) fun renderer =>
      inStep_still (fun _ => rfl) fun _ => ?_
    refine behaves_ask (fun _ _ _ _ => nofun) fun size => ?_
    refine behaves_ask (fun _ _ _ _ => nofun) fun _ => behaves_done ?_
    exact (((h.concat rfl).concat rfl).concat rfl).covers size
  -- each step may fail, and what was made by then is dropped
  refine inStep_still (fun _ => rfl) fun
    | some reason => hfailed [.dropWindow] _ (by simp)
    | none => ?_
  refine inStep_still (fun _ => rfl) fun
    | some reason => hfailed [.dropWindow] _ (by simp)
    | none => ?_
  refine inStep_still (fun _ => rfl) fun
    | some reason => hfailed [.dropContext, .dropWindow] _ (by simp)
    | none => ?_
  refine inStep_still (fun _ => rfl) fun
    | some reason => hfailed [.dropContext, .dropWindow] _ (by simp)
    | none => ?_
  refine inStep_still (fun _ => rfl) fun
    | some reason => hfailed [.dropContext, .dropSurface, .dropWindow] _ (by simp)
    | none => ?_
  refine inStep_still (fun _ => rfl) fun
    | some reason => inStep_still (fun _ => rfl) fun _ => hcurrent ?_
    | none => hcurrent ?_
  · exact ((((((h.concat rfl).concat rfl).concat rfl).concat rfl).concat rfl).concat rfl).concat rfl
  · exact (((((h.concat rfl).concat rfl).concat rfl).concat rfl).concat rfl).concat rfl

theorem inStep_makeWindow (window : WindowSettings) (settings : ContextSettings) :
    Behaves (inStep σ) past (world (Surface.openWindow window settings)) WindowMade
      fun _ _ => True := by
  refine behaves_world_window_bind fun listed => ⟨fun _ => nofun, ?_⟩
  cases listed with
  | error reason => exact behaves_done trivial
  | ok configs =>
    dsimp only
    cases greatestPosition configs with
    | none => exact behaves_abort trivial
    | some config =>
      refine behaves_world_window_bind fun made => ⟨fun _ => nofun, ?_⟩
      cases made with
      | true => exact inStep_attach settings config (isFresh_made _ rfl)
      | false => exact behaves_done trivial

/-- A window that opens shows the size that it was made with. -/
theorem inStep_openWindow (files : Files) (runtime : Runtime σ) :
    Behaves (inStep σ) past (openWindow files runtime) Runtime.Shown fun _ _ => True := by
  refine (inStep_makeWindow runtime.window runtime.context).bind ?_
  rintro (error | surface) middle hmiddle
  · exact inStep_closing (passive_fail error runtime)
  replace hmiddle : Covers surface.size middle := hmiddle
  refine behaves_ask (fun _ _ _ _ => nofun) fun told => ?_
  have hcalled : Behaves (inStep σ) (middle ++ [.window .innerSize told])
      ((call (.contextReady files told) runtime.app).onAbort (world surface.drop))
      (fun result final => result.1 = none → Shows surface.size final) fun _ _ => True := by
    refine Behaves.onAbort ?_ (fun _ _ => id) fun _ _ _ =>
      inStep_passive (passive_drop surface) fun _ _ _ _ => trivial
    refine behaves_ask (fun _ _ _ _ => nofun) fun answer => ?_
    cases answer with
    | error cause => exact behaves_abort trivial
    | ok result =>
      obtain ⟨reason?, state⟩ := result
      refine behaves_done ?_
      rintro rfl
      exact (hmiddle.concat rfl rfl).opened rfl rfl rfl
  refine hcalled.bind ?_
  rintro ⟨reason?, state⟩ final hfinal
  cases reason? with
  | some reason => exact inStep_closing ((passive_drop surface).bind fun _ _ => passive_fail _ _)
  | none =>
    have hopened (now : Int) : Runtime.Shown
        { runtime with app := state, entry := some ⟨surface, .standard, .standard now⟩ }
        (final ++ [.window .requestRedraw ()] ++ [.window .now now]) := by
      intro size hsize
      obtain rfl := Option.some.inj hsize
      exact ((hfinal rfl).concat_still rfl).concat_still rfl
    exact inStep_still (fun _ => rfl) fun _ => inStep_still (fun _ => rfl) fun now =>
      behaves_done (hopened now)

/-- The delivery of a callback keeps the account of sizes. -/
theorem inStep_deliver (files : Files) (callback : LoopCallback) (h : runtime.Shown past) :
    Behaves (inStep σ) past (deliver files callback runtime) Runtime.Shown fun _ _ => True := by
  cases callback with
  | resumed =>
    change Behaves _ _ (if _ then _ else _) _ _
    split
    · exact behaves_done h
    · exact inStep_openWindow files runtime
  | windowEvent event => exact inStep_windowEvent files event h
  | aboutToWait => exact inStep_keeping (passive_aboutToWait runtime) h
  | exiting => exact inStep_closing (passive_closeWindow runtime)

/-- Between two callbacks of the event loop an open window shows its sizes. -/
theorem inStep_deliverAll (callbacks : List (Files × LoopCallback)) (h : runtime.Shown past) :
    Behaves (inStep σ) past (deliverAll callbacks runtime) Runtime.Shown fun _ _ => True := by
  induction callbacks generalizing runtime past with
  | nil => exact behaves_done h
  | cons first rest ih =>
    obtain ⟨files, callback⟩ := first
    refine inStep_still (fun _ => rfl) fun _ => ?_
    have hdelivered : Behaves (inStep σ) (past ++ [.delivered callback])
        ((deliver files callback runtime).onAbort (release runtime)) Runtime.Shown
        fun _ _ => True :=
      (inStep_deliver files callback (h.concat rfl)).onAbort (fun _ _ => id) fun _ _ _ =>
        inStep_passive (passive_release runtime) fun _ _ _ _ => trivial
    exact hdelivered.bind fun next middle hnext => ih hnext

end Sizes

end Host

end Shaderbox
