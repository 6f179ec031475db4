import Shaderbox.Proofs.DeviceTrace
import Shaderbox.Window.Runtime

/-!
# The runtime as the host of an application

The callbacks of an application are programs, and what they exchange with the world lies among what
the runtime exchanges itself. Here the two are kept apart: the host is the runtime as a program that
asks for callbacks as it asks the world, hands over a state of the application with each and takes
the next one back. It also notes which callback of the event loop was delivered, that the run is to
end, and when the input of a frame was cleared. A callback that aborts is an answer like any other.

The runtime is its host, with the callbacks put in the place of the requests for them: `run_eq`. So
what holds of all courses of the host holds of all applications.
-/

namespace Shaderbox

open Interaction

/-- A callback of an application, with what it is handed. -/
inductive AppCall where
  | contextReady (files : Files) (size : PixelSize)
  | windowEvent (event : WindowEvent)
  | input (files : Files) (event : InputEvent)
  | frame (frame : Frame)
  | teardown

/-- What a callback answers. -/
@[reducible] def AppCall.Answer : AppCall → Type
  | .contextReady .. => Option String
  | .windowEvent _ => Control
  | .input .. => Control
  | .frame _ => Control
  | .teardown => Unit

/-- What a host takes note of. -/
inductive Milestone where
  /-- A callback of the event loop was delivered. -/
  | delivered (callback : LoopCallback)
  /-- The run is to end. -/
  | shuttingDown
  /-- The input that belongs to one frame was cleared. -/
  | cleared

/-- A request of a host for an application with states of type `σ`. -/
inductive HostRequest (σ : Type) where
  | world (request : Request Graphics)
  | app (callback : AppCall) (state : σ)
  /-- The application itself goes. -/
  | release (state : σ)
  | note (milestone : Milestone)

/-- What a request gives back. A callback or a release may abort. -/
@[reducible] def HostRequest.Answer {σ : Type} : HostRequest σ → Type
  | .world request => request.Answer
  | .app callback _ => Except Abort (callback.Answer × σ)
  | .release _ => Except Abort Unit
  | .note _ => Unit

/-- Everything that a host can do. -/
@[reducible] def Hosting (σ : Type) : Interface := ⟨HostRequest σ, HostRequest.Answer⟩

/-- A program of a host. -/
abbrev Hosted (σ : Type) := Interaction (Hosting σ)

namespace Interaction

variable {I J : Interface} {α β : Type}

/-- A program that never aborts, and gives the cause as its result instead. -/
def caught : Interaction I α → Interaction I (Except Abort α)
  | .done result => .done (.ok result)
  | .abort cause => .done (.error cause)
  | .ask request resume => .ask request fun answer => (resume answer).caught

/-- A cause that was caught can be thrown again. -/
theorem caught_bind_ofExcept (program : Interaction I α) :
    program.caught.bind ofExcept = program := by
  induction program with
  | done result => rfl
  | abort cause => rfl
  | ask request resume ih => exact congrArg _ (funext ih)

theorem caught_neverAborts (program : Interaction I α) : program.caught.NeverAborts := by
  intro exchanges cause hyields
  induction program generalizing exchanges with
  | done result => cases hyields
  | abort cause => cases hyields
  | ask request resume ih =>
    cases hyields with
    | ask _ _ answer hrest => exact ih answer _ hrest

theorem request_neverAborts (asked : I.Request) : (request asked).NeverAborts := by
  intro exchanges cause hyields
  cases hyields with
  | ask _ _ answer hdone => cases hdone

/-- In a sequence only the part that may abort has something to be cleaned up. -/
theorem NeverAborts.bind_onAbort {program : Interaction I α} (h : program.NeverAborts)
    (next : α → Interaction I β) (cleanUp : Interaction I Unit) :
    (program.bind next).onAbort cleanUp =
      program.bind fun result => (next result).onAbort cleanUp := by
  induction program with
  | done result => rfl
  | abort cause => exact absurd (.abort cause) (h [] cause)
  | ask request resume ih =>
    refine congrArg (ask request) (funext fun answer => ih answer ?_)
    intro exchanges cause hyields
    exact h _ cause (.ask request resume answer hyields)

/-- Where no request is answered by an abort, a clean-up is interpreted along with the program. -/
theorem interpret_onAbort {implement : (request : I.Request) → Interaction J (I.Answer request)}
    (h : ∀ request, (implement request).NeverAborts) (program : Interaction I α)
    (cleanUp : Interaction I Unit) :
    (program.onAbort cleanUp).interpret implement =
      (program.interpret implement).onAbort (cleanUp.interpret implement) := by
  induction program with
  | done result => rfl
  | abort cause =>
    rw [onAbort, interpret, onAbort]
    split
    · exact interpret_bind _ _ _
    · rfl
  | ask request resume ih =>
    rw [onAbort, interpret, interpret, (h request).bind_onAbort]
    exact congrArg _ (funext ih)

/-- Whether exchanges are those of the programs that requests stand for, one after the other, each
with the answer it comes to. -/
inductive Unfolds (implement : (request : I.Request) → Interaction J (I.Answer request)) :
    List (Exchange I) → List (Exchange J) → Prop
  | nil : Unfolds implement [] []
  | cons {request : I.Request} {answer : I.Answer request} {course : List (Exchange I)}
      {part exchanges : List (Exchange J)} :
      Yields (implement request) part (.ok answer) → Unfolds implement course exchanges →
        Unfolds implement (⟨request, answer⟩ :: course) (part ++ exchanges)

/-- Where no request is answered by an abort, what an interpreted program exchanges is what the
requests of the program stand for. -/
theorem exists_unfolds_of_yields_interpret
    {implement : (request : I.Request) → Interaction J (I.Answer request)}
    (h : ∀ request, (implement request).NeverAborts) {program : Interaction I α}
    {exchanges : List (Exchange J)} {outcome : Except Abort α}
    (hyields : Yields (program.interpret implement) exchanges outcome) :
    ∃ course, Yields program course outcome ∧ Unfolds implement course exchanges := by
  induction program generalizing exchanges with
  | done result =>
    cases hyields
    exact ⟨[], .done result, .nil⟩
  | abort cause =>
    cases hyields
    exact ⟨[], .abort cause, .nil⟩
  | ask request resume ih =>
    rcases yields_bind_iff.mp hyields with
      ⟨cause, hrequest, -⟩ | ⟨part, answer, rest, rfl, hrequest, hrest⟩
    · exact absurd hrequest (h request _ cause)
    · obtain ⟨course, hcourse, hunfolds⟩ := ih answer hrest
      exact ⟨_, .ask _ _ answer hcourse, .cons hrequest hunfolds⟩

end Interaction

namespace App

variable {σ : Type}

/-- What an application does when it is called. -/
def carryOut (app : App σ) : (callback : AppCall) → σ → Action (callback.Answer × σ)
  | .contextReady files size, state => app.contextReady files size state
  | .windowEvent event, state => app.windowEvent event state
  | .input files event, state => app.input files event state
  | .frame frame, state => app.frame frame state
  | .teardown, state => do return ((), ← app.teardown state)

/-- What a host with an application does for a request. -/
def implement (app : App σ) : (request : HostRequest σ) → Action request.Answer
  | .world asked => Interaction.request (I := Effects Graphics) asked
  | .app callback state => (app.carryOut callback state).caught
  | .release state => (app.release state).caught
  | .note _ => .done ()

theorem implement_neverAborts (app : App σ) (request : HostRequest σ) :
    (app.implement request).NeverAborts := by
  cases request with
  | world asked => exact request_neverAborts (I := Effects Graphics) asked
  | app callback state => exact caught_neverAborts _
  | release state => exact caught_neverAborts _
  | note milestone =>
    intro exchanges cause hyields
    cases hyields

end App

namespace Host

variable {σ α β : Type}

/-- Carry out a program of the engine as it is. -/
def world (program : Action α) : Hosted σ α :=
  program.interpret fun asked => Interaction.request (I := Hosting σ) (.world asked)

/-- Call the application, and go on with its answer and its next state. -/
def call (callback : AppCall) (state : σ) : Hosted σ (callback.Answer × σ) :=
  .ask (I := Hosting σ) (.app callback state) ofExcept

/-- Let the application go. -/
def letGo (state : σ) : Hosted σ Unit := .ask (I := Hosting σ) (.release state) ofExcept

/-- Take note of a milestone. -/
def note (milestone : Milestone) : Hosted σ Unit :=
  Interaction.request (I := Hosting σ) (.note milestone)

/-- Let the application release its objects while the context is there, then drop the window. -/
def closeWindow (runtime : Runtime σ) : Hosted σ (Runtime σ) := do
  match runtime.entry with
  | none => return runtime
  | some entry =>
    let (_, state) ← call .teardown runtime.app
    world entry.surface.drop
    return { runtime with app := state, entry := none }

/-- Close the window and end the event loop. -/
def shutDown (runtime : Runtime σ) : Hosted σ (Runtime σ) := do
  note .shuttingDown
  let runtime ← closeWindow runtime
  world (Action.window .exitEventLoop)
  return { runtime with exitRequested := true }

/-- Remember a failure and shut down. -/
def fail (error : WindowError) (runtime : Runtime σ) : Hosted σ (Runtime σ) := do
  world (Action.log .error error.message)
  shutDown { runtime with failure := some error }

/-- Open the window and let the application prepare itself. -/
def openWindow (files : Files) (runtime : Runtime σ) : Hosted σ (Runtime σ) := do
  match ← world (Surface.openWindow runtime.window runtime.context) with
  | .error error => fail error runtime
  | .ok surface =>
    let size ← world (Action.window .innerSize)
    let (failure, state) ←
      (call (.contextReady files size) runtime.app).onAbort (world surface.drop)
    let runtime := { runtime with app := state }
    match failure with
    | some reason =>
      world surface.drop
      fail (.app reason) runtime
    | none =>
      world (Action.window .requestRedraw)
      let now ← world (Action.window .now)
      return { runtime with entry := some ⟨surface, .standard, .standard now⟩ }

/-- The event loop is running, perhaps again. -/
def resumed (files : Files) (runtime : Runtime σ) : Hosted σ (Runtime σ) :=
  if runtime.entry.isSome || runtime.exitRequested then return runtime
  else openWindow files runtime

/-- Let the application draw a frame and show it. -/
def drawFrame (entry : WindowEntry) (state : σ) : Hosted σ (Control × WindowEntry × σ) := do
  let (time, clock) := entry.clock.tick (← world (Action.window .now))
  let (control, state) ← call (.frame ⟨entry.events.data, time⟩) state
  world (Action.window .announcePresent)
  world entry.surface.present
  return (control, { entry with clock }, state)

/-- Begin the input of the next frame, or shut down if there is to be none. -/
def finishFrame (runtime : Runtime σ) : Control × WindowEntry × σ → Hosted σ (Runtime σ)
  | (control, entry, state) => do
    note .cleared
    let runtime :=
      { runtime with
        app := state
        entry := some { entry with events := entry.events.beginFrame } }
    match control with
    | .exit => shutDown runtime
    | .continue => return runtime

/-- Draw a frame, unless the run is to end, and begin the input of the next one. -/
def redraw (runtime : Runtime σ) : Hosted σ (Runtime σ) := do
  match runtime.entry with
  | none => return runtime
  | some entry =>
    if entry.events.data.exitRequested then finishFrame runtime (.exit, entry, runtime.app)
    else finishFrame runtime (← drawFrame entry runtime.app)

/-- Take an event into the input state and hand it to the application. -/
def deliverInput (files : Files) (event : WindowEvent) (runtime : Runtime σ) :
    Hosted σ (Control × Runtime σ) := do
  match runtime.entry with
  | none => return (.continue, runtime)
  | some entry =>
    let scaleFactor ← world (Action.window .scaleFactor)
    match ← .ofExcept (event.input scaleFactor) with
    | none => return (.continue, runtime)
    | some input =>
      let entry := { entry with events := entry.events.handle input }
      let (control, state) ← call (.input files input) runtime.app
      return (control, { runtime with app := state, entry := some entry })

/-- What the runtime itself does about an event. -/
def react (event : WindowEvent) (runtime : Runtime σ) : Hosted σ (Runtime σ) := do
  match event, runtime.entry with
  | .closeRequested, _ => shutDown runtime
  | .resized size, some entry =>
    let runtime ← world (runtime.resize size entry)
    world (Action.window .requestRedraw)
    return runtime
  | .scaleFactorChanged, some entry =>
    let size ← world (Action.window .innerSize)
    world (runtime.resize size entry)
  | .redrawRequested, _ => redraw runtime
  | _, _ => return runtime

/-- An event of the window system. -/
def windowEvent (files : Files) (event : WindowEvent) (runtime : Runtime σ) :
    Hosted σ (Runtime σ) := do
  if runtime.exitRequested then return runtime
  else
    let (control, runtime) ← deliverInput files event runtime
    let (control, runtime) ← match control with
      | .exit => pure (control, runtime)
      | .continue => do
        let (control, state) ← call (.windowEvent event) runtime.app
        pure (control, { runtime with app := state })
    match control with
    | .exit => shutDown runtime
    | .continue => react event runtime

/-- Carry out a callback of the event loop, with the files as they are then. -/
def deliver (files : Files) (callback : LoopCallback) (runtime : Runtime σ) :
    Hosted σ (Runtime σ) :=
  match callback with
  | .resumed => resumed files runtime
  | .windowEvent event => windowEvent files event runtime
  | .aboutToWait => world runtime.aboutToWait
  | .exiting => closeWindow runtime

/-- Release what a run still holds: the application first, then its window. -/
def release (runtime : Runtime σ) : Hosted σ Unit := do
  letGo runtime.app
  match runtime.entry with
  | none => return ()
  | some entry => world entry.surface.drop

/-- Carry out callbacks in order. One that aborts ends the run, which then releases what it held. -/
def deliverAll : List (Files × LoopCallback) → Runtime σ → Hosted σ (Runtime σ)
  | [], runtime => return runtime
  | (files, callback) :: rest, runtime => do
    note (.delivered callback)
    let runtime ← (deliver files callback runtime).onAbort (release runtime)
    deliverAll rest runtime

/-- Run an application over the callbacks of an event loop, each with the files as they are then. -/
def run (window : WindowSettings) (context : ContextSettings) (state : σ)
    (callbacks : List (Files × LoopCallback)) : Hosted σ (Except RunError Unit) := do
  match ← world (Runtime.start window context state) with
  | .error error =>
    letGo state
    return .error error
  | .ok runtime =>
    let runtime ← deliverAll callbacks runtime
    let result ← world runtime.result
    release runtime
    return result

section Implemented

variable (app : App σ)

/-- Programs of the engine are carried out as they are. -/
@[simp] theorem interpret_world (program : Action α) :
    (world program : Hosted σ α).interpret app.implement = program := by
  induction program with
  | done result => rfl
  | abort cause => rfl
  | ask request resume ih => exact congrArg (ask (I := Effects Graphics) request) (funext ih)

/-- A call does what the application does. -/
theorem interpret_call (callback : AppCall) (state : σ) :
    (call callback state).interpret app.implement = app.carryOut callback state := by
  change (app.carryOut callback state).caught.bind
    (fun answer => (ofExcept answer : Hosted σ _).interpret app.implement) = _
  refine Eq.trans (congrArg _ (funext fun answer => ?_)) (caught_bind_ofExcept _)
  cases answer with
  | ok result => rfl
  | error cause => rfl

theorem interpret_call_bind (callback : AppCall) (state : σ)
    (next : callback.Answer × σ → Hosted σ β) :
    ((call callback state).bind next).interpret app.implement =
      (app.carryOut callback state).bind fun answer => (next answer).interpret app.implement := by
  rw [interpret_bind, interpret_call]

@[simp] theorem interpret_letGo (state : σ) :
    (letGo state).interpret app.implement = app.release state := by
  change (app.release state).caught.bind
    (fun answer => (ofExcept answer : Hosted σ _).interpret app.implement) = _
  refine Eq.trans (congrArg _ (funext fun answer => ?_)) (caught_bind_ofExcept _)
  cases answer with
  | ok result => rfl
  | error cause => rfl

/-- A clean-up stays one. -/
theorem interpret_cleanUp (program : Hosted σ α) (cleanUp : Hosted σ Unit) :
    (program.onAbort cleanUp).interpret app.implement =
      (program.interpret app.implement).onAbort (cleanUp.interpret app.implement) :=
  interpret_onAbort (I := Hosting σ) app.implement_neverAborts program cleanUp

/-- Notes leave nothing behind. -/
@[simp] theorem interpret_note (milestone : Milestone) :
    (note milestone : Hosted σ Unit).interpret app.implement = .done () := rfl

theorem closeWindow_eq (runtime : Runtime σ) :
    runtime.closeWindow app = (closeWindow runtime).interpret app.implement := by
  unfold closeWindow Runtime.closeWindow
  cases runtime.entry with
  | none => rfl
  | some entry =>
    refine Eq.trans ?_ (interpret_call_bind app .teardown runtime.app _).symm
    simp only [App.carryOut, bind_eq, bind_assoc, pure_eq, done_bind, interpret_bind,
      interpret_world]
    rfl

theorem shutDown_eq (runtime : Runtime σ) :
    runtime.shutDown app = (shutDown runtime).interpret app.implement := by
  simp only [shutDown, Runtime.shutDown, bind_eq, interpret_bind, interpret_note, done_bind,
    interpret_world, closeWindow_eq]
  rfl

theorem fail_eq (error : WindowError) (runtime : Runtime σ) :
    runtime.fail app error = (fail error runtime).interpret app.implement := by
  simp only [fail, Runtime.fail, bind_eq, interpret_bind, interpret_world, shutDown_eq]

theorem openWindow_eq (files : Files) (runtime : Runtime σ) :
    runtime.openWindow app files = (openWindow files runtime).interpret app.implement := by
  simp only [openWindow, Runtime.openWindow, bind_eq, interpret_bind, interpret_world]
  refine congrArg _ (funext fun result => ?_)
  cases result with
  | error error => exact fail_eq app error runtime
  | ok surface =>
    simp only [interpret_bind, interpret_world, interpret_cleanUp]
    refine congrArg _ (funext fun size => ?_)
    refine congr (congrArg _ ?_) (funext ?_)
    · exact congrArg (Interaction.onAbort · surface.drop)
        (interpret_call app (.contextReady files size) runtime.app).symm
    rintro ⟨failure, state⟩
    cases failure with
    | some reason => simp only [interpret_bind, interpret_world, fail_eq]
    | none =>
      simp only [interpret_bind, interpret_world]
      rfl

theorem drawFrame_eq (entry : WindowEntry) (state : σ) :
    Runtime.drawFrame app entry state = (drawFrame entry state).interpret app.implement := by
  simp only [drawFrame, Runtime.drawFrame, bind_eq, interpret_bind, interpret_world]
  refine congrArg _ (funext fun now => ?_)
  exact congrArg (Interaction.bind · _) (interpret_call app (.frame _) state).symm

theorem redraw_eq (runtime : Runtime σ) :
    runtime.redraw app = (redraw runtime).interpret app.implement := by
  unfold redraw Runtime.redraw
  cases runtime.entry with
  | none => rfl
  | some entry =>
    dsimp only
    split
    · exact shutDown_eq app _
    · rw [bind_eq, bind_eq, interpret_bind, ← drawFrame_eq]
      refine congrArg _ (funext ?_)
      rintro ⟨control, drawn, state⟩
      cases control with
      | exit => exact shutDown_eq app _
      | «continue» => rfl

theorem deliverInput_eq (files : Files) (event : WindowEvent) (runtime : Runtime σ) :
    runtime.deliverInput app files event =
      (deliverInput files event runtime).interpret app.implement := by
  unfold deliverInput Runtime.deliverInput
  cases runtime.entry with
  | none => rfl
  | some entry =>
    simp only [bind_eq, interpret_bind, interpret_world]
    refine congrArg _ (funext fun scaleFactor => ?_)
    cases event.input scaleFactor with
    | error cause => rfl
    | ok input =>
      cases input with
      | none => rfl
      | some input =>
        exact (interpret_call_bind app (.input files input) runtime.app fun (control, state) =>
          .done (control, { runtime with
            app := state
            entry := some { entry with events := entry.events.handle input } })).symm

theorem react_eq (event : WindowEvent) (runtime : Runtime σ) :
    runtime.react app event = (react event runtime).interpret app.implement := by
  obtain ⟨window, context, state, entry, exitRequested, failure⟩ := runtime
  cases event with
  | closeRequested => exact shutDown_eq app _
  | redrawRequested => exact redraw_eq app _
  | resized size =>
    cases entry with
    | none => rfl
    | some entry =>
      simp only [react, Runtime.react, bind_eq, interpret_bind, interpret_world]
      rfl
  | scaleFactorChanged =>
    cases entry with
    | none => rfl
    | some entry => simp only [react, Runtime.react, bind_eq, interpret_bind, interpret_world]
  | _ => rfl

theorem windowEvent_eq (files : Files) (event : WindowEvent) (runtime : Runtime σ) :
    runtime.windowEvent app files event =
      (windowEvent files event runtime).interpret app.implement := by
  unfold windowEvent Runtime.windowEvent
  split
  · rfl
  · simp only [bind_eq, interpret_bind, deliverInput_eq]
    refine congrArg _ (funext ?_)
    rintro ⟨control, next⟩
    cases control with
    | exit => exact shutDown_eq app next
    | «continue» =>
      simp only [interpret_bind]
      refine congr (congrArg _ (interpret_call app (.windowEvent event) next.app).symm)
        (funext ?_)
      rintro ⟨control, state⟩
      cases control with
      | exit => exact shutDown_eq app _
      | «continue» => exact react_eq app event _

theorem deliver_eq (files : Files) (callback : LoopCallback) (runtime : Runtime σ) :
    runtime.deliver app files callback =
      (deliver files callback runtime).interpret app.implement := by
  cases callback with
  | resumed =>
    unfold deliver Runtime.deliver resumed Runtime.resumed
    dsimp only
    split
    · rfl
    · exact openWindow_eq app files runtime
  | windowEvent event => exact windowEvent_eq app files event runtime
  | aboutToWait => exact (interpret_world app runtime.aboutToWait).symm
  | exiting => exact closeWindow_eq app runtime

theorem release_eq (runtime : Runtime σ) :
    runtime.release app = (release runtime).interpret app.implement := by
  simp only [release, Runtime.release, bind_eq, interpret_bind, interpret_letGo]
  cases runtime.entry with
  | none => rfl
  | some entry => simp only [interpret_world]

theorem deliverAll_eq (callbacks : List (Files × LoopCallback)) (runtime : Runtime σ) :
    Runtime.deliverAll app callbacks runtime =
      (deliverAll callbacks runtime).interpret app.implement := by
  induction callbacks generalizing runtime with
  | nil => rfl
  | cons first rest ih =>
    simp only [deliverAll, Runtime.deliverAll, bind_eq, interpret_bind, interpret_note, done_bind,
      interpret_cleanUp, deliver_eq, release_eq, ih]

/-- A run of the runtime is what its host does, with the callbacks of the application in the place
of the requests for them. -/
theorem run_eq (window : WindowSettings) (context : ContextSettings) (state : σ)
    (callbacks : List (Files × LoopCallback)) :
    Runtime.run app window context state callbacks =
      (run window context state callbacks).interpret app.implement := by
  simp only [run, Runtime.run, bind_eq, interpret_bind, interpret_world]
  refine congrArg _ (funext fun started => ?_)
  cases started with
  | error error =>
    simp only [interpret_bind, interpret_letGo]
    rfl
  | ok runtime =>
    simp only [interpret_bind, interpret_world, deliverAll_eq, release_eq]
    rfl

/-- What a run exchanges is the course of its host, with what the application exchanged in the place
of each call. -/
theorem exists_course_of_yields_run {window : WindowSettings} {context : ContextSettings}
    {state : σ} {callbacks : List (Files × LoopCallback)}
    {exchanges : List (Exchange (Effects Graphics))} {outcome : Except Abort (Except RunError Unit)}
    (h : Yields (Runtime.run app window context state callbacks) exchanges outcome) :
    ∃ course, Yields (run window context state callbacks) course outcome ∧
      Unfolds app.implement course exchanges := by
  rw [run_eq] at h
  exact exists_unfolds_of_yields_interpret app.implement_neverAborts h

end Implemented

end Host

end Shaderbox
