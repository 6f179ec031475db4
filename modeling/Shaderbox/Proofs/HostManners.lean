import Shaderbox.Proofs.Etiquette
import Shaderbox.Proofs.HostStandings

/-!
# How a host treats its application

What may be asked of the application, noted or done about the window is said for each exchange, in
terms of what came before it and what comes behind it. A host is in order if this holds of each
exchange of its course, wherever the course ends; the rules below give it for what a host is made
of.
-/

namespace Shaderbox

open Interaction Course

variable {σ : Type}

/-- Showing what was drawn, which may fail, and beginning the input of the next frame. -/
def shownFrame (reason? : Option String) : Course σ :=
  .window .announcePresent () :: .window .swapBuffers reason? ::
    (reason?.toList.map fun reason =>
      ⟨.world (.log ⟨.error, "failed to swap buffers: " ++ reason⟩), ()⟩) ++ [⟨.note .cleared, ()⟩]

/-- Whether a frame is called for as it should be: while the window is open and Escape was not
pressed, with the input since the window was opened and the number of frames before it. What was
drawn is shown next, unless the application aborts. -/
structure FrameFits (past : Course σ) (frame : Frame) (answer : Except Abort (Control × σ))
    (back : Course σ) : Prop where
  held : holdsWindow past = true
  unescaped : (sinceOpening past).any Exchange.pressesEscape = false
  data : frame.data = .after (inputs (sinceOpening past)) (inputs (sinceFrame past))
  moved : frame.data.mouseMoved = (sinceFrame past).any Exchange.movesCursor
  index : frame.time.index = UInt64.ofNat ((sinceOpening past).countP Exchange.isFrame)
  shown : ∀ result, answer = .ok result → ∃ reason? rest, back = shownFrame reason? ++ rest

/-- Whether an input event was just made of a window event. -/
def WasDelivered (past : Course σ) (input : InputEvent) : Prop :=
  ∃ earlier event scaleFactor, event.input scaleFactor = .ok (some input) ∧
    past = earlier ++ [.delivered (.windowEvent event)] ++ [.window .scaleFactor scaleFactor]

/-- Whether the input event that is made of a window event, if any, is handed to the application
next. -/
def IsHandedOn (event : WindowEvent) (back : Course σ) : Prop :=
  ∃ scaleFactor rest, back = .window .scaleFactor scaleFactor :: rest ∧
    ∀ input, event.input scaleFactor = .ok (some input) →
      ∃ files state answer tail, rest = .app (.input files input) state answer :: tail

/-- Whether the application is torn down next, or was before if there is no window any more. -/
structure IsTornDown (past back : Course σ) : Prop where
  held : holdsWindow past = true → ∃ state answer rest, back = .app .teardown state answer :: rest
  closed : holdsWindow past = false → past.any Exchange.opens = true →
    past.any Exchange.isTeardown = true

/-- Whether an exchange of a host is in its place. Where all is `tidy`, the event loop delivers
nothing after it announced its end, and the window is opened once at most. -/
def InOrder (tidy : Prop) (past : Course σ) : Exchange (Hosting σ) → Course σ → Prop
  | ⟨.app (.contextReady ..) _, _⟩, _ =>
    past.any Exchange.exits = false ∧ (tidy → past.any Exchange.starts = false)
  | ⟨.app (.windowEvent _) _, _⟩, _ => past.any Exchange.exits = false
  | ⟨.app (.input _ input) _, _⟩, _ =>
    past.any Exchange.exits = false ∧ holdsWindow past = true ∧ WasDelivered past input
  | ⟨.app (.frame frame) _, answer⟩, back =>
    past.any Exchange.exits = false ∧ FrameFits past frame answer back
  | ⟨.app .teardown _, _⟩, _ =>
    past.any Exchange.exits = false ∧ holdsWindow past = true ∧
      (sinceOpening past).any Exchange.isTeardown = false
  | ⟨.note .shuttingDown, _⟩, back => IsTornDown past back
  | ⟨.note (.delivered .exiting), _⟩, back => IsTornDown past back
  | ⟨.note (.delivered (.windowEvent event)), _⟩, back =>
    holdsWindow past = true → IsHandedOn event back
  | ⟨.world (.window (.createWindow ..)), made⟩, _ =>
    past.any Exchange.exits = false ∧ (made = false → tidy → past.any Exchange.starts = false)
  | exchange, _ => exchange.failsOpening = true → tidy → past.any Exchange.starts = false

/-- Whether an exchange belongs to the delivery of a callback, and not to the begin or the end of a
run. -/
def Exchange.isInner : Exchange (Hosting σ) → Bool
  | ⟨.world (.window .openEventLoop), _⟩ => false
  | ⟨.world (.window .eventLoopResult), _⟩ => false
  | _ => true

theorem IsHandedOn.append {event : WindowEvent} {back : Course σ} (h : IsHandedOn event back)
    (more : Course σ) : IsHandedOn event (back ++ more) := by
  obtain ⟨scaleFactor, rest, rfl, hinput⟩ := h
  refine ⟨scaleFactor, rest ++ more, rfl, fun input hmade => ?_⟩
  obtain ⟨files, state, answer, tail, rfl⟩ := hinput input hmade
  exact ⟨files, state, answer, tail ++ more, rfl⟩

theorem IsTornDown.append {past back : Course σ} (h : IsTornDown past back) (more : Course σ) :
    IsTornDown past (back ++ more) := by
  refine ⟨fun hheld => ?_, h.closed⟩
  obtain ⟨state, answer, rest, rfl⟩ := h.held hheld
  exact ⟨state, answer, rest ++ more, rfl⟩

theorem InOrder.lasts {tidy : Prop} {past back : Course σ} {exchange : Exchange (Hosting σ)}
    (more : Course σ) (h : InOrder tidy past exchange back) :
    InOrder tidy past exchange (back ++ more) := by
  unfold InOrder at h ⊢
  split at h
  · exact h
  · exact h
  · exact h
  · obtain ⟨hrunning, hfits⟩ := h
    refine ⟨hrunning, { hfits with shown := fun result hresult => ?_ }⟩
    obtain ⟨reason?, rest, rfl⟩ := hfits.shown result hresult
    exact ⟨reason?, rest ++ more, List.append_assoc _ _ _⟩
  · exact h
  · exact h.append more
  · exact h.append more
  · exact fun hheld => (h hheld).append more
  · exact h
  · exact h

section Demands

variable {tidy : Prop} {past back : Course σ} {exchange : Exchange (Hosting σ)}

/-- To make the application ready, or to fail on the way there, comes before anything else. -/
theorem InOrder.fresh (h : InOrder tidy past exchange back) (htidy : tidy)
    (hattempts : exchange.isReady = true ∨ exchange.failsOpening = true) :
    past.any Exchange.starts = false := by
  rcases hattempts with hready | hfails
  · unfold Exchange.isReady at hready
    split at hready
    · exact h.2 htidy
    · contradiction
  · unfold Exchange.failsOpening at hfails
    split at hfails
    case h_2 made => exact h.2 (by simpa using hfails) htidy
    case h_8 => exact h.2 htidy
    case h_9 => contradiction
    all_goals exact h hfails htidy

/-- The application is not called, and no window is made, once the event loop was told to end. -/
theorem InOrder.running (h : InOrder tidy past exchange back)
    (hcalls : exchange.isAppCall = true ∨ exchange.createsWindow = true) :
    past.any Exchange.exits = false := by
  rcases hcalls with hcall | hcreates
  · unfold Exchange.isAppCall at hcall
    split at hcall
    case h_1 callback state answer =>
      cases callback with
      | windowEvent event => exact h
      | _ => exact h.1
    case h_2 => contradiction
  · unfold Exchange.createsWindow at hcreates
    split at hcreates
    · exact h.1
    · contradiction

/-- The application is called for input and frames, and torn down, while the window is open. -/
theorem InOrder.held (h : InOrder tidy past exchange back)
    (hcalls : exchange.input?.isSome = true ∨ exchange.isFrame = true ∨
      exchange.isTeardown = true) : holdsWindow past = true := by
  rcases hcalls with hinput | hframe | hteardown
  · unfold Exchange.input? at hinput
    split at hinput
    · exact h.2.1
    · contradiction
  · unfold Exchange.isFrame at hframe
    split at hframe
    · exact h.2.held
    · contradiction
  · unfold Exchange.isTeardown at hteardown
    split at hteardown
    · exact h.2.1
    · contradiction

theorem InOrder.untorn (h : InOrder tidy past exchange back)
    (hteardown : exchange.isTeardown = true) :
    (sinceOpening past).any Exchange.isTeardown = false := by
  unfold Exchange.isTeardown at hteardown
  split at hteardown
  · exact h.2.2
  · contradiction

theorem InOrder.unescaped (h : InOrder tidy past exchange back)
    (hframe : exchange.isFrame = true) :
    (sinceOpening past).any Exchange.pressesEscape = false := by
  unfold Exchange.isFrame at hframe
  split at hframe
  · exact h.2.unescaped
  · contradiction

theorem InOrder.tornDown (h : InOrder tidy past exchange back)
    (hending : exchange.isEnding = true) : IsTornDown past back := by
  unfold Exchange.isEnding at hending
  split at hending
  · exact h
  · exact h
  · contradiction

end Demands

/-- The manners of a host while it delivers a callback of the event loop. -/
def manners (σ : Type) (tidy : Prop) : Etiquette (Hosting σ) where
  Holds past exchange back := exchange.isInner = true ∧ InOrder tidy past exchange back
  lasts more h := ⟨h.1, h.2.lasts more⟩

/-- Whether a request to the window system is in its place anywhere: it is no step on the way to an
open window, and neither the begin nor the end of a run. -/
def WindowCall.isPlain : WindowCall → Bool
  | .openEventLoop | .eventLoopResult => false
  | .findConfigs .. | .createWindow .. | .nativeHandle | .createContext .. | .describeSurface
  | .createSurface _ | .makeCurrent => false
  | _ => true

theorem manners_of_isPlain {tidy : Prop} {past : Course σ} {call : WindowCall}
    (h : call.isPlain = true) (answer : call.Answer) (back : Course σ) :
    (manners σ tidy).Holds past (.window call answer) back := by
  cases call
  all_goals first
    | contradiction
    | exact ⟨rfl, fun hfails => absurd hfails Bool.false_ne_true⟩

/-- The manners of a host on the whole. -/
def orders (σ : Type) (tidy : Prop) : Etiquette (Hosting σ) where
  Holds := InOrder tidy
  lasts more h := h.lasts more

/-- Whether something broke a run, for a cause. -/
def Broken (cause : Abort) (past : Course σ) : Prop :=
  ∃ exchange ∈ past, exchange.Breaks cause

/-- Whether a run went well: the event loop was created, it ended without an error, and no step on
the way to an open window failed. -/
def WentWell (past : Course σ) : Prop :=
  .window .openEventLoop none ∈ past ∧ .window .eventLoopResult none ∈ past ∧
    past.any Exchange.failsOpening = false

theorem broken_concat {cause : Abort} {past : Course σ} {exchange : Exchange (Hosting σ)}
    (h : exchange.Breaks cause) : Broken cause (past ++ [exchange]) :=
  ⟨exchange, List.mem_append_right past (.head _), h⟩

theorem Broken.append {cause : Abort} {past : Course σ} (h : Broken cause past)
    (more : Course σ) : Broken cause (past ++ more) := by
  obtain ⟨exchange, hmem, hbreaks⟩ := h
  exact ⟨exchange, List.mem_append_left more hmem, hbreaks⟩

namespace Host

variable {α β : Type} {tidy : Prop} {past : Course σ} {after : α → Course σ → Prop}
  {broken : Abort → Course σ → Prop}

theorem world_bind (program : Action β) (next : β → Action α) :
    (world (program.bind next) : Hosted σ α) =
      (world program).bind fun result => world (next result) :=
  interpret_bind _ program next

/-- A request to the window system must be in its place, whatever is answered. -/
theorem behaves_window_bind {etiquette : Etiquette (Hosting σ)} {call : WindowCall}
    {next : call.Answer → Hosted σ α}
    (h : ∀ answer, (∀ back, etiquette.Holds past (.window call answer) back) ∧
      Behaves etiquette (past ++ [.window call answer]) (next answer) after broken) :
    Behaves etiquette past ((world (Action.window call)).bind next) after broken :=
  behaves_ask (fun answer course _ _ => (h answer).1 course) fun answer => (h answer).2

theorem behaves_world_window_bind {etiquette : Etiquette (Hosting σ)} {call : WindowCall}
    {next : call.Answer → Action α}
    (h : ∀ answer, (∀ back, etiquette.Holds past (.window call answer) back) ∧
      Behaves etiquette (past ++ [.window call answer]) (world (next answer)) after broken) :
    Behaves etiquette past (world ((Action.window call).bind next)) after broken := by
  rw [world_bind]
  exact behaves_window_bind h

/-- A request that is in its place anywhere needs nothing of the course so far. -/
theorem behaves_plain_bind {call : WindowCall} {next : call.Answer → Hosted σ α}
    (hplain : call.isPlain = true)
    (h : ∀ answer, Behaves (manners σ tidy) (past ++ [.window call answer]) (next answer) after
      broken) :
    Behaves (manners σ tidy) past ((world (Action.window call)).bind next) after broken :=
  behaves_window_bind fun answer => ⟨manners_of_isPlain hplain answer, h answer⟩

theorem behaves_world_plain_bind {call : WindowCall} {next : call.Answer → Action α}
    (hplain : call.isPlain = true)
    (h : ∀ answer, Behaves (manners σ tidy) (past ++ [.window call answer]) (world (next answer))
      after broken) :
    Behaves (manners σ tidy) past (world ((Action.window call).bind next)) after broken :=
  behaves_world_window_bind fun answer => ⟨manners_of_isPlain hplain answer, h answer⟩

theorem behaves_world_log_bind {level : LogLevel} {message : String} {next : Unit → Action α}
    (h : Behaves (manners σ tidy) (past ++ [⟨.world (.log ⟨level, message⟩), ()⟩]) (world (next ()))
      after broken) :
    Behaves (manners σ tidy) past (world ((Action.log level message).bind next)) after broken :=
  behaves_ask (fun _ _ _ _ => ⟨rfl, nofun⟩) fun _ => h

theorem behaves_world_graphics_bind {call : GraphicsCall} {next : call.Answer → Action α}
    (h : ∀ answer, Behaves (manners σ tidy) (past ++ [⟨.world (.graphics call), answer⟩])
      (world (next answer)) after broken) :
    Behaves (manners σ tidy) past (world ((Action.graphics call).bind next)) after broken :=
  behaves_ask (fun _ _ _ _ => ⟨rfl, nofun⟩) h

/-- A call of the application must be in its place, with all that may come after it. -/
theorem behaves_call_bind {callback : AppCall} {state : σ}
    {next : callback.Answer × σ → Hosted σ α}
    (hreturned : ∀ result, Behaves (manners σ tidy) (past ++ [.app callback state (.ok result)])
      (next result) after broken)
    (hbroken : ∀ cause, broken cause (past ++ [.app callback state (.error cause)]))
    (hok : ∀ result course outcome, Yields (next result) course outcome →
      InOrder tidy past (.app callback state (.ok result)) course)
    (herror : ∀ cause, InOrder tidy past (.app callback state (.error cause)) []) :
    Behaves (manners σ tidy) past ((call callback state).bind next) after broken := by
  refine behaves_ask (fun answer course outcome hyields => ⟨rfl, ?_⟩) fun answer => ?_
  · cases answer with
    | ok result => exact hok result course outcome hyields
    | error cause =>
      cases hyields
      exact herror cause
  · cases answer with
    | ok result => exact hreturned result
    | error cause => exact behaves_abort (hbroken cause)

/-- What a host does while it delivers callbacks is in order, and is neither the begin nor the end
of a run. -/
theorem behaves_orders {program : Hosted σ α}
    (h : Behaves (manners σ tidy) past program after broken) :
    Behaves (orders σ tidy) past program
      (fun result final => after result final ∧
        ∃ course, final = past ++ course ∧ ∀ exchange ∈ course, exchange.isInner = true)
      broken := by
  intro course outcome hyields
  obtain ⟨hobserved, hconcludes⟩ := h _ _ hyields
  refine ⟨hobserved.mono fun _ _ _ => And.right, ?_⟩
  cases outcome with
  | ok result =>
    refine ⟨hconcludes, course, rfl, fun exchange hmem => ?_⟩
    obtain ⟨front, back, rfl⟩ := List.append_of_mem hmem
    exact hobserved.holds.1
  | error cause => exact hconcludes

end Host

end Shaderbox
