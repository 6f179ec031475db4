import Shaderbox.Proofs.HostCourse

/-!
# How the window stands in a course

There is no window, and none may be opened or one may; or there is one, whose application may be
torn down already. While it is open its input state and its clock are what the course makes of them.
Each of these is kept by inert exchanges, and the others lead from one to the next.
-/

namespace Shaderbox

variable {σ : Type}

section Conversion

variable {event : WindowEvent} {scaleFactor : Float} {input? : Option InputEvent}

/-- What is made of a position is made of a converted one. -/
theorem exists_of_toLogical_map {make : Float32 × Float32 → Option InputEvent} {x y : Float}
    (h : (toLogical scaleFactor x y).map make = .ok input?) :
    ∃ position, input? = make position := by
  cases hlogical : toLogical scaleFactor x y with
  | error cause =>
    rw [hlogical] at h
    contradiction
  | ok position =>
    rw [hlogical] at h
    exact ⟨position, (Except.ok.inj h).symm⟩

/-- It is for the sake of the scale factor that no position can be converted. -/
theorem WindowEvent.isNormalPositive_of_input_error {cause : Abort}
    (h : event.input scaleFactor = .error cause) :
    isNormalPositive scaleFactor = false ∧ cause = .invalidScaleFactor := by
  have hlogical {make : Float32 × Float32 → Option InputEvent} {x y : Float}
      (hmade : (toLogical scaleFactor x y).map make = .error cause) :
      isNormalPositive scaleFactor = false ∧ cause = .invalidScaleFactor := by
    unfold toLogical at hmade
    split at hmade
    · contradiction
    · rename_i hnormal
      exact ⟨Bool.eq_false_iff.mpr hnormal, (Except.error.inj hmade).symm⟩
  cases event with
  | cursorMoved x y => exact hlogical h
  | wheel scroll =>
    cases scroll with
    | lines x y => contradiction
    | pixels x y => exact hlogical h
  | _ => contradiction

end Conversion

namespace Course

/-- Whether there is no window, after failures or without one. What was opened was torn down. -/
structure Down (failed : Bool) (past : Course σ) : Prop where
  refused : past.any Exchange.failsOpening = failed
  closed : holdsWindow past = false
  settled : past.any Exchange.opens = true → past.any Exchange.isTeardown = true

/-- Whether there is no window while the event loop was not told to end. -/
structure Closed (failed : Bool) (past : Course σ) : Prop extends Down failed past where
  running : past.any Exchange.exits = false

/-- Whether a window may be opened. Where all is `tidy` nothing came before. -/
structure Idle (tidy : Prop) (past : Course σ) : Prop extends Closed false past where
  fresh : tidy → past.any Exchange.starts = false

/-- Whether there is a window, with an application that was not torn down yet. -/
structure Held (past : Course σ) : Prop where
  accepted : past.any Exchange.failsOpening = false
  running : past.any Exchange.exits = false
  held : holdsWindow past = true
  untorn : (sinceOpening past).any Exchange.isTeardown = false

/-- Whether there is a window, with an application that was torn down. -/
structure Torn (past : Course σ) : Prop where
  accepted : past.any Exchange.failsOpening = false
  running : past.any Exchange.exits = false
  torn : past.any Exchange.isTeardown = true

/-- Whether the input state and the clock of a window are what its course makes of them. -/
structure Open (entry : WindowEntry) (past : Course σ) : Prop extends Held past where
  events : entry.events = .after (inputs (sinceOpening past)) (inputs (sinceFrame past))
  index : entry.clock.index = UInt64.ofNat ((sinceOpening past).countP Exchange.isFrame)
  moved : (sinceFrame past).any Exchange.movesCursor =
    (inputs (sinceFrame past)).any fun event => event.cursor?.isSome
  escaped : (sinceOpening past).any Exchange.pressesEscape =
    (inputs (sinceOpening past)).any InputEvent.pressesEscape

section Concat

variable {past : Course σ} {exchange : Exchange (Hosting σ)} {failed : Bool} {tidy : Prop}
  {entry : WindowEntry}

theorem Down.concat (h : Down failed past) (hopens : exchange.opens = false)
    (hfails : exchange.failsOpening = false) : Down failed (past ++ [exchange]) where
  refused := (any_concat_of_false hfails).trans h.refused
  closed := by simp [hopens, h.closed]
  settled hopened := by
    rw [any_concat_of_false hopens] at hopened
    rw [any_concat, h.settled hopened, Bool.or_true]

theorem Closed.concat (h : Closed failed past) (hopens : exchange.opens = false)
    (hfails : exchange.failsOpening = false) (hexits : exchange.exits = false) :
    Closed failed (past ++ [exchange]) where
  toDown := h.toDown.concat hopens hfails
  running := (any_concat_of_false hexits).trans h.running

/-- A step that fails on the way to a window leaves none. -/
theorem Closed.concat_refusal (h : Closed failed past) (hopens : exchange.opens = false)
    (hfails : exchange.failsOpening = true) (hexits : exchange.exits = false) :
    Closed true (past ++ [exchange]) where
  refused := any_concat_of_true hfails
  closed := by simp [hopens, h.closed]
  settled hopened := by
    rw [any_concat_of_false hopens] at hopened
    rw [any_concat, h.settled hopened, Bool.or_true]
  running := (any_concat_of_false hexits).trans h.running

theorem Idle.concat (h : Idle tidy past) (hinert : exchange.inert = true) :
    Idle tidy (past ++ [exchange]) := by
  obtain ⟨hopens, hready, hinput, hframe, hteardown, hending, hfails, hexits, -⟩ :=
    Exchange.inert_iff.mp hinert
  refine ⟨h.toClosed.concat hopens hfails hexits, fun htidy => ?_⟩
  refine (any_concat_of_false ?_).trans (h.fresh htidy)
  simp [Exchange.starts, hready, hinput, hframe, hteardown, hending, hfails]

theorem Idle.delivered (h : Idle tidy past) (event : WindowEvent) :
    Idle tidy (past ++ [.delivered (.windowEvent event)]) where
  toClosed := h.toClosed.concat rfl rfl rfl
  fresh htidy := (any_concat_of_false rfl).trans (h.fresh htidy)

theorem Held.concat (h : Held past) (hopens : exchange.opens = false)
    (hfails : exchange.failsOpening = false) (hexits : exchange.exits = false)
    (hdrops : exchange.dropsWindow = false) (hteardown : exchange.isTeardown = false) :
    Held (past ++ [exchange]) where
  accepted := (any_concat_of_false hfails).trans h.accepted
  running := (any_concat_of_false hexits).trans h.running
  held := by simp [hopens, hdrops, h.held]
  untorn := by simp [hopens, hteardown, h.untorn]

theorem Held.concat_inert (h : Held past) (hinert : exchange.inert = true) :
    Held (past ++ [exchange]) := by
  obtain ⟨hopens, -, -, -, hteardown, -, hfails, hexits, hdrops, -⟩ :=
    Exchange.inert_iff.mp hinert
  exact h.concat hopens hfails hexits hdrops hteardown

theorem Open.concat (h : Open entry past) (hinert : exchange.inert = true) :
    Open entry (past ++ [exchange]) := by
  refine ⟨h.toHeld.concat_inert hinert, ?_, ?_, ?_, ?_⟩
  all_goals
    obtain ⟨hopens, -, hinput, hframe, -, -, -, -, -, hmoves, hpresses⟩ :=
      Exchange.inert_iff.mp hinert
  · simp [hopens, hinput, hframe, h.events]
  · simp [hopens, hframe, h.index]
  · simp [hopens, hinput, hframe, hmoves, h.moved]
  · simp [hopens, hinput, hpresses, h.escaped]

/-- The surface does not matter. -/
theorem Open.withSurface (h : Open entry past) (surface : Surface) :
    Open { entry with surface } past :=
  ⟨h.toHeld, h.events, h.index, h.moved, h.escaped⟩

/-- A window that opens comes with a fresh input state and a fresh clock. -/
theorem Idle.opened (h : Idle tidy past) (hopens : exchange.opens = true)
    (hfails : exchange.failsOpening = false) (hexits : exchange.exits = false)
    (hevents : entry.events = .standard) (hindex : entry.clock.index = 0) :
    Open entry (past ++ [exchange]) where
  accepted := (any_concat_of_false hfails).trans h.refused
  running := (any_concat_of_false hexits).trans h.running
  held := by simp [hopens]
  untorn := by simp [hopens]
  events := by simp [hopens, hevents, EventContext.standard_eq_after]
  index := by simp [hopens, hindex]
  moved := by simp [hopens]
  escaped := by simp [hopens]

theorem Held.torn (h : Held past) (hteardown : exchange.isTeardown = true)
    (hfails : exchange.failsOpening = false) (hexits : exchange.exits = false) :
    Torn (past ++ [exchange]) where
  accepted := (any_concat_of_false hfails).trans h.accepted
  running := (any_concat_of_false hexits).trans h.running
  torn := any_concat_of_true hteardown

theorem Torn.concat (h : Torn past) (hfails : exchange.failsOpening = false)
    (hexits : exchange.exits = false) : Torn (past ++ [exchange]) where
  accepted := (any_concat_of_false hfails).trans h.accepted
  running := (any_concat_of_false hexits).trans h.running
  torn := by rw [any_concat, h.torn, Bool.or_true]

/-- Once the window was dropped behind a teardown there is none. -/
theorem Torn.dropped (h : Torn past) :
    Closed false (past ++ [.window .dropSurface ()] ++ [.window .dropContext ()] ++
      [.window .dropWindow ()]) := by
  have hlast : Torn (past ++ [.window .dropSurface ()] ++ [.window .dropContext ()]) :=
    (h.concat rfl rfl).concat rfl rfl
  refine ⟨⟨?_, ?_, fun _ => ?_⟩, ?_⟩
  · exact (any_concat_of_false rfl).trans hlast.accepted
  · rw [holdsWindow_concat]
    rfl
  · rw [any_concat, hlast.torn, Bool.or_true]
  · exact (any_concat_of_false rfl).trans hlast.running

/-- Dropping a window that did not open leaves none either. -/
theorem Closed.dropped (h : Closed failed past) :
    Closed failed (past ++ [.window .dropSurface ()] ++ [.window .dropContext ()] ++
      [.window .dropWindow ()]) :=
  ((h.concat rfl rfl rfl).concat rfl rfl rfl).concat rfl rfl rfl

/-- A frame ticks the clock, and what belongs to it is forgotten behind it. -/
theorem Open.frame (h : Open entry past) (now : Int) (frame : Frame) (state : σ)
    (answer : Except Abort (Control × σ)) :
    Open { entry with clock := (entry.clock.tick now).2, events := entry.events.beginFrame }
      (past ++ [.app (.frame frame) state answer]) where
  toHeld := h.toHeld.concat rfl rfl rfl rfl rfl
  events := by
    dsimp only
    rw [h.events, EventContext.beginFrame_after]
    simp [Exchange.opens, Exchange.isFrame, Exchange.input?]
  index := by
    simp [Exchange.opens, Exchange.isFrame, FrameClock.tick, h.index, List.countP_append]
  moved := by simp [Exchange.opens, Exchange.isFrame]
  escaped := by
    simp [Exchange.opens, Exchange.input?, Exchange.pressesEscape, h.escaped]

end Concat

section Delivery

variable {past : Course σ} {entry : WindowEntry} {event : WindowEvent} {scaleFactor : Float}
  {input? : Option InputEvent}

/-- A window event moves the cursor or presses Escape if the input event that is made of it does. -/
theorem movesCursor_and_pressesEscape_delivered (h : event.input scaleFactor = .ok input?) :
    (.delivered (.windowEvent event) : Exchange (Hosting σ)).movesCursor =
        input?.any (fun input => input.cursor?.isSome) ∧
      (.delivered (.windowEvent event) : Exchange (Hosting σ)).pressesEscape =
        input?.any InputEvent.pressesEscape := by
  cases event with
  | cursorMoved x y =>
    obtain ⟨position, rfl⟩ := exists_of_toLogical_map h
    exact ⟨rfl, rfl⟩
  | wheel scroll =>
    cases scroll with
    | lines x y =>
      cases h
      exact ⟨rfl, rfl⟩
    | pixels x y =>
      obtain ⟨position, rfl⟩ := exists_of_toLogical_map h
      exact ⟨rfl, rfl⟩
  | keyboard position pressed repeated =>
    cases h
    refine ⟨rfl, ?_⟩
    change _ = (InputEvent.key position.key pressed repeated).pressesEscape
    cases pressed <;> cases hkey : position.key <;>
      simp [Exchange.pressesEscape, InputEvent.pressesEscape, hkey]
  | _ =>
    cases h
    exact ⟨rfl, rfl⟩

/-- A window event that no input event is made of changes nothing. -/
theorem inert_delivered (h : event.input scaleFactor = .ok none) :
    (.delivered (.windowEvent event) : Exchange (Hosting σ)).inert = true := by
  obtain ⟨hmoves, hpresses⟩ := movesCursor_and_pressesEscape_delivered h
  rw [Exchange.inert_iff]
  exact ⟨rfl, rfl, rfl, rfl, rfl, rfl, rfl, rfl, rfl, hmoves, hpresses⟩

/-- An input event that is made of a delivered one and taken in belongs to the course. -/
theorem Open.handle {input : InputEvent} (h : Open entry past)
    (hinput : event.input scaleFactor = .ok (some input)) (files : Files) (state : σ)
    (answer : Except Abort (Control × σ)) :
    Open { entry with events := entry.events.handle input }
      (past ++ [.delivered (.windowEvent event)] ++ [.window .scaleFactor scaleFactor] ++
        [.app (.input files input) state answer]) := by
  obtain ⟨hmoves, hpresses⟩ := movesCursor_and_pressesEscape_delivered hinput
  have hheld : Held (past ++ [.delivered (.windowEvent event)]) :=
    h.toHeld.concat rfl rfl rfl rfl rfl
  have hinputs (since : Course σ) :
      inputs (since ++ [.delivered (.windowEvent event)] ++ [.window .scaleFactor scaleFactor] ++
        [.app (.input files input) state answer]) = inputs since ++ [input] := by
    rw [inputs_concat, inputs_concat, inputs_concat]
    simp [Exchange.input?]
  have hopening :
      sinceOpening (past ++ [.delivered (.windowEvent event)] ++
          [.window .scaleFactor scaleFactor] ++ [.app (.input files input) state answer]) =
        sinceOpening past ++ [.delivered (.windowEvent event)] ++
          [.window .scaleFactor scaleFactor] ++ [.app (.input files input) state answer] := by
    rw [sinceOpening_concat, sinceOpening_concat, sinceOpening_concat]
    rfl
  have hframe :
      sinceFrame (past ++ [.delivered (.windowEvent event)] ++
          [.window .scaleFactor scaleFactor] ++ [.app (.input files input) state answer]) =
        sinceFrame past ++ [.delivered (.windowEvent event)] ++
          [.window .scaleFactor scaleFactor] ++ [.app (.input files input) state answer] := by
    rw [sinceFrame_concat, sinceFrame_concat, sinceFrame_concat]
    rfl
  refine ⟨(hheld.concat_inert rfl).concat rfl rfl rfl rfl rfl, ?_, ?_, ?_, ?_⟩
  · rw [hopening, hframe, hinputs, hinputs, ← EventContext.handle_after, ← h.events]
  · rw [hopening, List.countP_append, List.countP_append, List.countP_append]
    exact h.index
  · rw [hframe, hinputs, any_concat, any_concat, any_concat, any_concat, hmoves, h.moved]
    rfl
  · rw [hopening, hinputs, any_concat, any_concat, any_concat, any_concat, hpresses, h.escaped]
    rfl

end Delivery

end Course

end Shaderbox
