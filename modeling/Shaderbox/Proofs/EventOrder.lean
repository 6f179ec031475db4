import Shaderbox.Proofs.SurfaceInStep

/-!
# The order in which an event is handled

An event that is delivered to an open window goes through the same stages on every route. Its scale
factor is asked for and the input event that is made of it, if any, is taken into the input state.
Then the application is called with the input event, and then with the event itself. Only when it
lets the event pass does the runtime do its own part: it closes the window, resizes the surface or
draws. So an application that is told of a new size still has the surface and the viewport of the
old one.
-/

namespace Shaderbox

open Interaction Course

variable {σ : Type}

/-- Whether the runtime itself does something about an event of an open window. -/
def WindowEvent.isActedOn : WindowEvent → Bool
  | .closeRequested | .resized _ | .scaleFactorChanged | .redrawRequested => true
  | _ => false

/-- The runtime with an input event taken into the input state of its window. -/
def Runtime.takeIn (runtime : Runtime σ) (entry : WindowEntry) (input : InputEvent) : Runtime σ :=
  { runtime with entry := some { entry with events := entry.events.handle input } }

namespace Host

/-- What is left once the application answered: to shut down, or the runtime's own part. -/
def conclude (event : WindowEvent) : Control → Runtime σ → Hosted σ (Runtime σ)
  | .exit, runtime => shutDown runtime
  | .continue, runtime => react event runtime

/-- What is left from the call with the event itself on. -/
def offerEvent (event : WindowEvent) (runtime : Runtime σ) : Hosted σ (Runtime σ) := do
  let (control, state) ← call (.windowEvent event) runtime.app
  conclude event control { runtime with app := state }

/-- What is left from the call with an input event on. -/
def offerInput (files : Files) (event : WindowEvent) (input : InputEvent) (runtime : Runtime σ) :
    Hosted σ (Runtime σ) := do
  let (control, state) ← call (.input files input) runtime.app
  match control with
  | .exit => shutDown { runtime with app := state }
  | .continue => offerEvent event { runtime with app := state }

variable {files : Files} {event : WindowEvent} {runtime : Runtime σ} {entry : WindowEntry}
  {course front back : Course σ} {outcome : Except Abort (Runtime σ)}

/-- An event of an open window is taken in before the application is called for it. -/
theorem windowEvent_eq_offer (hentry : runtime.entry = some entry)
    (hexit : runtime.exitRequested = false) :
    windowEvent files event runtime = (do
      let scaleFactor ← world (Action.window .scaleFactor)
      match ← Interaction.ofExcept (event.input scaleFactor) with
      | none => offerEvent event runtime
      | some input => offerInput files event input (runtime.takeIn entry input)) := by
  unfold windowEvent deliverInput
  rw [if_neg (by simp [hexit])]
  simp only [hentry, bind_eq, Interaction.bind_assoc]
  refine congrArg _ (funext fun scaleFactor => ?_)
  cases event.input scaleFactor with
  | error cause => rfl
  | ok input? =>
    cases input? with
    | none =>
      refine congrArg (ask (I := Hosting σ) (.app (.windowEvent event) _)) (funext fun told => ?_)
      rcases told with _ | ⟨_ | _, _⟩ <;> rfl
    | some input =>
      refine congrArg (ask (I := Hosting σ) (.app (.input files input) _)) (funext fun heard => ?_)
      rcases heard with cause | ⟨control, state⟩
      · rfl
      · cases control with
        | exit => rfl
        | «continue» =>
          refine congrArg (ask (I := Hosting σ) (.app (.windowEvent event) _))
            (funext fun told => ?_)
          rcases told with _ | ⟨_ | _, _⟩ <;> rfl

/-- What the runtime does about a size that an event brings. -/
theorem yields_react_resized {size : PixelSize} (hentry : runtime.entry = some entry)
    (h : Yields (react (.resized size) runtime) course outcome) :
    course = following size ++ [.window .requestRedraw ()] := by
  unfold react at h
  simp only [hentry] at h
  rcases yields_bind_iff.mp h with ⟨cause, hresize, -⟩ | ⟨front, next, back, rfl, hresize, hrest⟩
  · obtain ⟨-, herror⟩ := yields_resize hresize
    contradiction
  · obtain ⟨rfl, -⟩ := yields_resize hresize
    cases hrest with
    | ask _ _ _ hdone =>
      cases hdone
      rfl

/-- What the runtime does about a new scale factor: it follows the size that the window is measured
at. -/
theorem yields_react_scaleFactorChanged (hentry : runtime.entry = some entry)
    (h : Yields (react .scaleFactorChanged runtime) course outcome) :
    ∃ size, course = .window .innerSize size :: following size := by
  unfold react at h
  simp only [hentry] at h
  cases h with
  | ask _ _ size hrest =>
    obtain ⟨rfl, -⟩ := yields_resize hrest
    exact ⟨size, rfl⟩

/-- Behind the last answer of the application it is not called for an event any more. -/
theorem offers_eq_false_of_conclude {control : Control} (hentry : runtime.entry = some entry)
    (h : Yields (conclude event control runtime) course outcome) :
    ∀ exchange ∈ course, exchange.offers = false := by
  have hpassive {program : Hosted σ (Runtime σ)} {spec : Runtime σ → Prop}
      (hprogram : Passive program spec) (hyields : Yields program course outcome) :
      ∀ exchange ∈ course, exchange.offers = false := fun exchange hmem =>
    (Exchange.isPassive_iff.mp (hprogram.isPassive hyields exchange hmem)).2
  have hfollowing (size : PixelSize) :
      ∀ exchange ∈ (following size : Course σ), exchange.offers = false := by
    intro exchange hmem
    obtain ⟨area, -, hmem⟩ := List.mem_flatMap.mp hmem
    rcases List.mem_pair.mp hmem with rfl | rfl <;> rfl
  cases control with
  | exit => exact hpassive (passive_shutDown runtime) h
  | «continue» =>
    cases event with
    | closeRequested => exact hpassive (passive_shutDown runtime) h
    | resized size =>
      rw [yields_react_resized hentry h]
      exact List.forall_mem_append.mpr ⟨hfollowing size, List.forall_mem_singleton.mpr rfl⟩
    | scaleFactorChanged =>
      obtain ⟨size, rfl⟩ := yields_react_scaleFactorChanged hentry h
      exact List.forall_mem_cons.mpr ⟨rfl, hfollowing size⟩
    | redrawRequested => exact hpassive (passive_redraw runtime) h
    | _ =>
      cases h
      simp

/-- The runtime has a part of its own in the events that it acts on, and in no others. -/
theorem eq_nil_iff_of_yields_react (hentry : runtime.entry = some entry)
    (h : Yields (react event runtime) course outcome) : course = [] ↔ event.isActedOn = false := by
  cases event with
  | closeRequested =>
    cases h
    simp [WindowEvent.isActedOn]
  | resized size => simp [yields_react_resized hentry h, WindowEvent.isActedOn]
  | scaleFactorChanged =>
    obtain ⟨size, rfl⟩ := yields_react_scaleFactorChanged hentry h
    simp [WindowEvent.isActedOn]
  | redrawRequested =>
    unfold react redraw at h
    simp only [hentry] at h
    split at h
    · cases h
      simp [WindowEvent.isActedOn]
    · cases h
      simp [WindowEvent.isActedOn]
  | _ =>
    cases h
    simp [WindowEvent.isActedOn]

/-- Where the application is not called for an event there is no such call. -/
theorem not_forall_offers {exchange : Exchange (Hosting σ)}
    (hcourse : front ++ exchange :: back = course) (h : exchange.offers = true) :
    ¬ ∀ other ∈ course, other.offers = false := by
  intro hothers
  rw [hothers exchange (by simp [← hcourse])] at h
  contradiction

/-- Once the application is called with an event it is not called for an event again. -/
theorem of_yields_offerEvent {exchange : Exchange (Hosting σ)} (hentry : runtime.entry = some entry)
    (h : Yields (offerEvent event runtime) (front ++ exchange :: back) outcome)
    (hoffers : exchange.offers = true) :
    front = [] ∧ ∃ answer, exchange = .app (.windowEvent event) runtime.app answer := by
  generalize hcourse : front ++ exchange :: back = course at h
  cases h with
  | ask _ _ answer hrest =>
    cases front with
    | nil =>
      obtain ⟨rfl, -⟩ := List.cons.inj hcourse
      exact ⟨rfl, answer, rfl⟩
    | cons first front =>
      obtain ⟨-, hcourse⟩ := List.cons.inj hcourse
      refine (not_forall_offers hcourse hoffers ?_).elim
      cases answer with
      | error cause =>
        cases hrest
        simp
      | ok result =>
        obtain ⟨control, next⟩ := result
        have hconclude : Yields (conclude event control { runtime with app := next }) _ outcome :=
          hrest
        exact offers_eq_false_of_conclude (by exact hentry) hconclude

/-- Once the application is called with an input event it is called with the event itself, if it
lets the input event pass, and not for an event again. -/
theorem of_yields_offerInput {input : InputEvent} {exchange : Exchange (Hosting σ)}
    (hentry : runtime.entry = some entry)
    (h : Yields (offerInput files event input runtime) (front ++ exchange :: back) outcome)
    (hoffers : exchange.offers = true) :
    (front = [] ∧ ∃ answer, exchange = .app (.input files input) runtime.app answer) ∨
      ∃ state answer, front = [.app (.input files input) runtime.app (.ok (.continue, state))] ∧
        exchange = .app (.windowEvent event) state answer ∧
        Yields (offerEvent event { runtime with app := state }) (exchange :: back) outcome := by
  generalize hcourse : front ++ exchange :: back = course at h
  cases h with
  | ask _ _ answer hrest =>
    cases front with
    | nil =>
      obtain ⟨rfl, -⟩ := List.cons.inj hcourse
      exact .inl ⟨rfl, answer, rfl⟩
    | cons first front =>
      obtain ⟨rfl, hback⟩ := List.cons.inj hcourse
      cases answer with
      | error cause =>
        cases hrest
        simp at hback
      | ok result =>
        obtain ⟨control, state⟩ := result
        cases control with
        | exit =>
          refine (not_forall_offers hback hoffers fun other hmem => ?_).elim
          exact (Exchange.isPassive_iff.mp ((passive_shutDown _).isPassive hrest other hmem)).2
        | «continue» =>
          have htold : Yields (offerEvent event { runtime with app := state })
              (front ++ exchange :: back) outcome := by
            rw [show front ++ exchange :: back = _ from hback]
            exact hrest
          obtain ⟨rfl, told, rfl⟩ := of_yields_offerEvent (by exact hentry) htold hoffers
          exact .inr ⟨state, told, rfl, rfl, htold⟩

end Host

/-- The stages of an event up to the call with the event itself: what was exchanged, and how the
runtime stands then. -/
inductive IsTakenIn (files : Files) (event : WindowEvent) (runtime : Runtime σ)
    (entry : WindowEntry) : Course σ → Runtime σ → Prop
  | untranslated {scaleFactor : Float} (h : event.input scaleFactor = .ok none) :
      IsTakenIn files event runtime entry [.window .scaleFactor scaleFactor] runtime
  | translated {scaleFactor : Float} {input : InputEvent} {state : σ}
      (h : event.input scaleFactor = .ok (some input)) :
      IsTakenIn files event runtime entry
        [.window .scaleFactor scaleFactor,
          .app (.input files input) runtime.app (.ok (.continue, state))]
        { runtime.takeIn entry input with app := state }

/-- How an event of an open window is handled. -/
structure HandledInTurn (files : Files) (event : WindowEvent) (runtime : Runtime σ)
    (entry : WindowEntry) (course : Course σ) (outcome : Except Abort (Runtime σ)) : Prop where
  /-- The application is called with the input event that the input state has just taken in. -/
  heard : ∀ front given input state answer back,
    course = front ++ .app (.input given input) state answer :: back →
      ∃ scaleFactor, front = [.window .scaleFactor scaleFactor] ∧
        event.input scaleFactor = .ok (some input) ∧
        Yields (Host.offerInput files event input (runtime.takeIn entry input))
          (.app (.input given input) state answer :: back) outcome
  /-- It is called with the event itself behind that, and before anything else is done about it. -/
  told : ∀ front state answer back,
    course = front ++ .app (.windowEvent event) state answer :: back →
      ∃ taken, IsTakenIn files event runtime entry front taken ∧
        Yields (Host.offerEvent event taken) (.app (.windowEvent event) state answer :: back)
          outcome
  /-- Nothing is left to be done then just if the runtime does nothing about the event itself. -/
  finished : ∀ front state next back,
    course = front ++ .app (.windowEvent event) state (.ok (.continue, next)) :: back →
      (back = [] ↔ event.isActedOn = false)
  /-- A new size is still to be followed then. -/
  resized : ∀ size front state next back, event = .resized size →
    course = front ++ .app (.windowEvent event) state (.ok (.continue, next)) :: back →
      back = following size ++ [.window .requestRedraw ()]
  rescaled : ∀ front state next back, event = .scaleFactorChanged →
    course = front ++ .app (.windowEvent event) state (.ok (.continue, next)) :: back →
      ∃ size, back = .window .innerSize size :: following size

section Turns

variable {files : Files} {event : WindowEvent} {runtime : Runtime σ} {entry : WindowEntry}
  {course : Course σ} {outcome : Except Abort (Runtime σ)}

theorem IsTakenIn.exists_entry {taken : Runtime σ}
    (h : IsTakenIn files event runtime entry course taken) (hentry : runtime.entry = some entry) :
    ∃ after, taken.entry = some after := by
  cases h with
  | untranslated => exact ⟨entry, hentry⟩
  | translated => exact ⟨_, rfl⟩

/-- Where the application is called with an event, and where with the input event made of it. -/
theorem Host.turns_of_yields_windowEvent (hentry : runtime.entry = some entry)
    (hexit : runtime.exitRequested = false)
    (h : Yields (Host.windowEvent files event runtime) course outcome) :
    (∀ front given input state answer back,
      course = front ++ .app (.input given input) state answer :: back →
        ∃ scaleFactor, front = [.window .scaleFactor scaleFactor] ∧
          event.input scaleFactor = .ok (some input) ∧
          Yields (Host.offerInput files event input (runtime.takeIn entry input))
            (.app (.input given input) state answer :: back) outcome) ∧
      ∀ front state answer back,
        course = front ++ .app (.windowEvent event) state answer :: back →
          ∃ taken, IsTakenIn files event runtime entry front taken ∧
            Yields (Host.offerEvent event taken)
              (.app (.windowEvent event) state answer :: back) outcome := by
  rw [Host.windowEvent_eq_offer hentry hexit] at h
  cases h with
  | @ask _ _ scaleFactor rest _ h =>
  change Yields ((Interaction.ofExcept (event.input scaleFactor)).bind _) _ _ at h
  -- the exchange in question is not the first one, which asks for the scale factor
  have hbehind {front back : Course σ} {exchange : Exchange (Hosting σ)}
      (hcourse : .window .scaleFactor scaleFactor :: rest = front ++ exchange :: back)
      (hoffers : exchange.offers = true) :
      ∃ between, front = .window .scaleFactor scaleFactor :: between ∧
        rest = between ++ exchange :: back := by
    cases front with
    | nil =>
      obtain ⟨rfl, -⟩ := List.cons.inj hcourse
      contradiction
    | cons first between =>
      obtain ⟨rfl, rfl⟩ := List.cons.inj hcourse
      exact ⟨between, rfl, rfl⟩
  cases hinput : event.input scaleFactor with
  | error cause =>
    rw [hinput] at h
    cases h
    refine ⟨fun front given input state answer back hcourse => ?_,
      fun front state answer back hcourse => ?_⟩
    all_goals
      obtain ⟨between, -, hrest⟩ := hbehind hcourse rfl
      simp at hrest
  | ok input? =>
    rw [hinput] at h
    cases input? with
    | none =>
      refine ⟨fun front given input state answer back hcourse => ?_,
        fun front state answer back hcourse => ?_⟩
      all_goals
        obtain ⟨between, rfl, rfl⟩ := hbehind hcourse rfl
        obtain ⟨rfl, _, hexchange⟩ := Host.of_yields_offerEvent hentry h rfl
      · cases hexchange
      · exact ⟨runtime, .untranslated hinput, h⟩
    | some input =>
      refine ⟨fun front given other state answer back hcourse => ?_,
        fun front state answer back hcourse => ?_⟩
      all_goals
        obtain ⟨between, rfl, rfl⟩ := hbehind hcourse rfl
        rcases Host.of_yields_offerInput rfl h rfl with
          ⟨rfl, _, hexchange⟩ | ⟨next, _, rfl, hexchange, hoffered⟩
      · cases hexchange
        exact ⟨scaleFactor, rfl, hinput, h⟩
      · cases hexchange
      · cases hexchange
      · exact ⟨_, .translated hinput, hoffered⟩

/-- When the application lets an event pass that it was called with, the runtime's own part is left,
in a window that is still open. -/
theorem Host.exists_react_of_told {front back : Course σ} {state next : σ}
    (hentry : runtime.entry = some entry) (hexit : runtime.exitRequested = false)
    (h : Yields (Host.windowEvent files event runtime)
      (front ++ .app (.windowEvent event) state (.ok (.continue, next)) :: back) outcome) :
    ∃ heard after, heard.entry = some after ∧ Yields (Host.react event heard) back outcome := by
  obtain ⟨taken, htaken, htold⟩ := (turns_of_yields_windowEvent hentry hexit h).2 _ _ _ _ rfl
  obtain ⟨after, hafter⟩ := htaken.exists_entry hentry
  cases htold with
  | ask _ _ _ hrest => exact ⟨{ taken with app := next }, after, hafter, hrest⟩

end Turns

/-- Whatever an application answers, each event of an open window is handled in turn: the
application is called with an input event once it was taken in, and with the event itself before the
runtime does its own part. -/
theorem windowEvent_handledInTurn (app : App σ) {files : Files} {event : WindowEvent}
    {runtime : Runtime σ} {entry : WindowEntry} {exchanges : List (Exchange (Effects Graphics))}
    {outcome : Except Abort (Runtime σ)} (hentry : runtime.entry = some entry)
    (hexit : runtime.exitRequested = false)
    (hyields : Yields (runtime.windowEvent app files event) exchanges outcome) :
    ∃ course, Yields (Host.windowEvent files event runtime) course outcome ∧
      Unfolds app.implement course exchanges ∧
      HandledInTurn files event runtime entry course outcome := by
  rw [Host.windowEvent_eq] at hyields
  obtain ⟨course, hcourse, hunfolds⟩ :=
    exists_unfolds_of_yields_interpret app.implement_neverAborts hyields
  obtain ⟨hheard, htold⟩ := Host.turns_of_yields_windowEvent hentry hexit hcourse
  refine ⟨course, hcourse, hunfolds, hheard, htold, ?_, ?_, ?_⟩
  · rintro front state next back rfl
    obtain ⟨heard, after, hafter, hreact⟩ := Host.exists_react_of_told hentry hexit hcourse
    exact Host.eq_nil_iff_of_yields_react hafter hreact
  · rintro size front state next back rfl rfl
    obtain ⟨heard, after, hafter, hreact⟩ := Host.exists_react_of_told hentry hexit hcourse
    exact Host.yields_react_resized hafter hreact
  · rintro front state next back rfl rfl
    obtain ⟨heard, after, hafter, hreact⟩ := Host.exists_react_of_told hentry hexit hcourse
    exact Host.yields_react_scaleFactorChanged hafter hreact

/-- An application is told of a new size while the surface and the viewport still have the old one.
-/
theorem windowEvent_handledInTurn_resized :
    ∃ (runtime resized : Runtime Unit) (entry : WindowEntry)
      (exchanges : List (Exchange (Effects Graphics))) (course : Course Unit),
      runtime.entry = some entry ∧ entry.surface.size = ⟨1280, 720⟩ ∧
      runtime.exitRequested = false ∧
      exchanges = [⟨.window .scaleFactor, 1⟩, ⟨.observe (.windowEvent "Resized"), .continue⟩,
        ⟨.window (.resizeSurface ⟨5, 6⟩), ()⟩, ⟨.graphics (.setViewport 5 6), ()⟩,
        ⟨.window .requestRedraw, ()⟩] ∧
      Yields (runtime.windowEvent observedApp (fun _ => .absent) (.resized ⟨5, 6⟩)) exchanges
        (.ok resized) ∧
      Unfolds observedApp.implement course exchanges ∧
      HandledInTurn (fun _ => .absent) (.resized ⟨5, 6⟩) runtime entry course (.ok resized) := by
  let entry : WindowEntry := ⟨⟨⟨1280, 720⟩⟩, .standard, .standard 0⟩
  let runtime : Runtime Unit :=
    { window := {}, context := {}, app := (), entry := some entry }
  have hyields : Yields (runtime.windowEvent observedApp (fun _ => .absent) (.resized ⟨5, 6⟩))
      [⟨.window .scaleFactor, 1⟩, ⟨.observe (.windowEvent "Resized"), .continue⟩,
        ⟨.window (.resizeSurface ⟨5, 6⟩), ()⟩, ⟨.graphics (.setViewport 5 6), ()⟩,
        ⟨.window .requestRedraw, ()⟩]
      (.ok { runtime with entry := some { entry with surface := ⟨⟨5, 6⟩⟩ } }) :=
    .ask _ _ _ (.ask _ _ _ (.ask _ _ _ (.ask _ _ _ (.ask _ _ _ (.done _)))))
  obtain ⟨course, -, hunfolds, hturns⟩ := windowEvent_handledInTurn observedApp rfl rfl hyields
  exact ⟨runtime, _, entry, _, course, rfl, rfl, rfl, rfl, hyields, hunfolds, hturns⟩

end Shaderbox
