import Shaderbox.Proofs.InputHistory
import Mathlib.Data.List.DropRight

/-!
# The input state after any sequence of steps

Between two frames a context takes in events, and from outside it can be told that a frame begins or
that the run shall end. Asking for the end does what pressing Escape does, so the state after any
sequence of these steps is that after a history of events, of which some came since the last frame
began. What is held, counted and remembered is then told from the steps themselves: a button is held
if it went down and was neither released nor lost with the focus since.
-/

namespace Shaderbox

/-- What is done with the input state of a window. -/
inductive InputStep where
  | takeIn (event : InputEvent)
  | beginFrame
  | requestExit

namespace InputStep

/-- Carry out a step. -/
def perform (context : EventContext) : InputStep → EventContext
  | takeIn event => context.handle event
  | beginFrame => context.beginFrame
  | requestExit => context.requestExit

/-- The event that a step amounts to, if any. Asking for the end amounts to pressing Escape. -/
def input? : InputStep → Option InputEvent
  | takeIn event => some event
  | beginFrame => none
  | requestExit => some (.key .escape true false)

/-- Whether a new frame begins with the step. -/
def beginsFrame : InputStep → Bool
  | beginFrame => true
  | _ => false

/-- Whether a key goes down or up with the step. -/
def TurnsKey (key : Key) (pressed : Bool) (step : InputStep) : Prop :=
  ∃ repeated, step = takeIn (.key key pressed repeated)

/-- Whether a button goes down or up with the step. -/
def TurnsButton (button : MouseButton) (pressed : Bool) (step : InputStep) : Prop :=
  step = takeIn (.button button pressed)

/-- Whether the window loses the focus with the step. -/
def LosesFocus (step : InputStep) : Prop :=
  step = takeIn (.focused false)

/-- Whether the cursor moves with the step. -/
def MovesCursor (step : InputStep) : Prop :=
  ∃ x y, step = takeIn (.pointer x y)

/-- Whether something is scrolled with the step. -/
def Scrolls (step : InputStep) : Prop :=
  ∃ scroll, step = takeIn (.wheel scroll)

/-- Whether the space bar goes down with the step, and not just because it is held. -/
def togglesSpace : InputStep → Bool
  | takeIn event => event.togglesSpace
  | _ => false

/-- Whether the step asks for the end of the run. -/
def AsksForExit (step : InputStep) : Prop :=
  step = requestExit ∨ step.TurnsKey .escape true

end InputStep

/-- The context with the standard bindings after a sequence of steps. -/
def EventContext.afterSteps (steps : List InputStep) : EventContext :=
  steps.foldl InputStep.perform .standard

/-- The events that a sequence of steps amounts to. -/
def inputsOf (steps : List InputStep) : List InputEvent :=
  steps.filterMap InputStep.input?

/-- The steps since the last frame began. -/
def stepsInFrame (steps : List InputStep) : List InputStep :=
  steps.rtakeWhile fun step => !step.beginsFrame

section ClosedForm

variable (steps : List InputStep)

@[simp] theorem inputsOf_concat (step : InputStep) :
    inputsOf (steps ++ [step]) = inputsOf steps ++ step.input?.toList := by
  unfold inputsOf
  rw [List.filterMap_append]
  cases hinput : step.input? <;> simp [hinput]

@[simp] theorem stepsInFrame_concat (step : InputStep) :
    stepsInFrame (steps ++ [step]) =
      if step.beginsFrame then [] else stepsInFrame steps ++ [step] := by
  unfold stepsInFrame
  rw [List.rtakeWhile_concat]
  cases step.beginsFrame <;> rfl

/-- Asking for the end adds the pressing of Escape to the history. -/
theorem EventContext.requestExit_after (history recent : List InputEvent) :
    (after history recent).requestExit =
      after (history ++ [.key .escape true false]) (recent ++ [.key .escape true false]) := by
  simp [requestExit, after, EventData.after, InputEvent.scroll?, InputEvent.cursor?,
    InputEvent.holdsButton?, InputEvent.holdsControl?, InputEvent.togglesSpace,
    InputEvent.pressesEscape]

/-- The state after a sequence of steps is told by the events that they amount to. -/
theorem EventContext.afterSteps_eq :
    afterSteps steps = after (inputsOf steps) (inputsOf (stepsInFrame steps)) := by
  induction steps using List.reverseRecOn with
  | nil => exact standard_eq_after
  | append_singleton steps step ih =>
    have hstep : afterSteps (steps ++ [step]) = step.perform (afterSteps steps) := by
      unfold afterSteps
      rw [List.foldl_append]
      rfl
    rw [hstep, ih, inputsOf_concat, stepsInFrame_concat]
    cases step with
    | takeIn event =>
      rw [InputStep.perform, handle_after]
      simp [InputStep.beginsFrame, InputStep.input?]
    | beginFrame =>
      rw [InputStep.perform, beginFrame_after]
      simp [InputStep.beginsFrame, InputStep.input?, inputsOf]
    | requestExit =>
      rw [InputStep.perform, requestExit_after]
      simp [InputStep.beginsFrame, InputStep.input?]

end ClosedForm

/-- Whether a step of one kind was taken, and none of the other kind since. -/
def LastsAfter (starts ends : InputStep → Prop) (steps : List InputStep) : Prop :=
  ∃ before step since, steps = before ++ step :: since ∧ starts step ∧
    ∀ later ∈ since, ¬ ends later

section Lasting

variable {starts ends : InputStep → Prop} {steps : List InputStep} {step : InputStep}

theorem not_lastsAfter_nil : ¬ LastsAfter starts ends [] := by
  rintro ⟨before, step, since, hsteps, -⟩
  simp at hsteps

/-- The last step decides, or leaves it as it was. -/
theorem lastsAfter_concat :
    LastsAfter starts ends (steps ++ [step]) ↔
      starts step ∨ LastsAfter starts ends steps ∧ ¬ ends step := by
  constructor
  · rintro ⟨before, first, since, hsteps, hstarts, hsince⟩
    rcases since.eq_nil_or_concat with rfl | ⟨since, last, rfl⟩
    · obtain ⟨-, hstep⟩ := List.append_inj' hsteps rfl
      obtain rfl := List.singleton_inj.mp hstep
      exact .inl hstarts
    · rw [List.concat_eq_append, ← List.cons_append, ← List.append_assoc] at hsteps
      obtain ⟨rfl, hstep⟩ := List.append_inj' hsteps rfl
      obtain rfl := List.singleton_inj.mp hstep
      rw [List.concat_eq_append, List.forall_mem_append, List.forall_mem_singleton] at hsince
      exact .inr ⟨⟨before, first, since, rfl, hstarts, hsince.1⟩, hsince.2⟩
  · rintro (hstarts | ⟨⟨before, first, since, rfl, hstarts, hsince⟩, hends⟩)
    · exact ⟨steps, step, [], rfl, hstarts, by simp⟩
    · refine ⟨before, first, since ++ [step], by simp, hstarts, ?_⟩
      rw [List.forall_mem_append, List.forall_mem_singleton]
      exact ⟨hsince, hends⟩

/-- What came in this frame is what came with no beginning of a frame behind it. -/
theorem any_inputsOf_stepsInFrame {counts : InputEvent → Bool}
    (hstarts : ∀ step : InputStep, starts step ↔ ∃ event ∈ step.input?, counts event = true)
    (steps : List InputStep) :
    (inputsOf (stepsInFrame steps)).any counts = true ↔
      LastsAfter starts (fun step => step.beginsFrame = true) steps := by
  induction steps using List.reverseRecOn with
  | nil => simp [inputsOf, stepsInFrame, not_lastsAfter_nil]
  | append_singleton steps step ih =>
    rw [lastsAfter_concat, hstarts, ← ih, stepsInFrame_concat]
    cases step with
    | takeIn event =>
      simp [InputStep.beginsFrame, InputStep.input?, or_comm]
    | beginFrame => simp [InputStep.beginsFrame, InputStep.input?, inputsOf]
    | requestExit =>
      simp [InputStep.beginsFrame, InputStep.input?, or_comm]

end Lasting

section Remembering

variable {α : Type} {value? : InputEvent → Option α} {standard : α}

/-- The last step that gives a value determines it. -/
theorem latest_inputsOf_of_last {step : InputStep} {value : α} {before since : List InputStep}
    (hstep : step.input?.bind value? = some value)
    (hsince : ∀ later ∈ since, later.input?.bind value? = none) :
    latest value? standard (inputsOf (before ++ step :: since)) = value := by
  have hnothing : since.filterMap (fun later => later.input?.bind value?) = [] :=
    List.filterMap_eq_nil_iff.mpr hsince
  unfold latest inputsOf
  rw [List.filterMap_filterMap, List.filterMap_append, List.filterMap_cons, hstep, hnothing]
  simp

/-- Where no event gives a value the standard one stays. -/
theorem latest_of_not_any {events : List InputEvent}
    (h : ¬ (events.any fun event => (value? event).isSome) = true) :
    latest value? standard events = standard := by
  have hnothing : events.filterMap value? = [] := by
    rw [List.filterMap_eq_nil_iff]
    simpa using h
  unfold latest
  rw [hnothing]
  rfl

end Remembering

/-- Whether something that can go down and up is held: it went down, and since then it did not go
up and the focus was not lost. -/
def IsHeld (turns : Bool → InputStep → Prop) : List InputStep → Prop :=
  LastsAfter (turns true) fun step => turns false step ∨ step.LosesFocus

section Holding

variable (step : InputStep) (pressed : Bool)

theorem InputStep.holdsControl_iff :
    step.input?.bind InputEvent.holdsControl? = some pressed ↔
      step.TurnsKey .controlLeft pressed ∨ pressed = false ∧ step.LosesFocus := by
  unfold TurnsKey LosesFocus
  cases step with
  | takeIn event =>
    cases event with
    | key key down repeated => cases key <;> simp [input?, InputEvent.holdsControl?]
    | focused gained => cases gained <;> simp [input?, InputEvent.holdsControl?, eq_comm]
    | _ => simp [input?, InputEvent.holdsControl?]
  | _ => simp [input?, InputEvent.holdsControl?]

theorem InputStep.holdsButton_iff (button : MouseButton) :
    step.input?.bind (InputEvent.holdsButton? button) = some pressed ↔
      step.TurnsButton button pressed ∨ pressed = false ∧ step.LosesFocus := by
  unfold TurnsButton LosesFocus
  cases step with
  | takeIn event =>
    cases event with
    | focused gained => cases gained <;> simp [input?, InputEvent.holdsButton?, eq_comm]
    | _ => simp [input?, InputEvent.holdsButton?]
  | _ => simp [input?, InputEvent.holdsButton?]

/-- A source that events switch on and off, and that is lost with the focus, is on exactly while it
is held. -/
theorem latest_inputsOf_iff {value? : InputEvent → Option Bool} {turns : Bool → InputStep → Prop}
    (hvalue : ∀ step pressed, step.input?.bind value? = some pressed ↔
      turns pressed step ∨ pressed = false ∧ step.LosesFocus)
    (steps : List InputStep) :
    latest value? false (inputsOf steps) = true ↔ IsHeld turns steps := by
  induction steps using List.reverseRecOn with
  | nil => simp [inputsOf, IsHeld, not_lastsAfter_nil]
  | append_singleton steps step ih =>
    have hon : turns true step ↔ step.input?.bind value? = some true := by
      simp [hvalue step true]
    have hoff : turns false step ∨ step.LosesFocus ↔ step.input?.bind value? = some false := by
      simp [hvalue step false]
    rw [IsHeld, lastsAfter_concat, hon, hoff, ← IsHeld, ← ih, inputsOf_concat]
    cases step.input? with
    | none => simp
    | some event =>
      simp only [Option.toList_some, latest_concat, Option.bind_some]
      cases value? event with
      | none => simp
      | some value => cases value <;> simp

end Holding

/-- What the input state tells of the steps that were taken. -/
structure EventData.TellsOf (steps : List InputStep) (data : EventData) : Prop where
  pan : data.panPressed = true ↔
    IsHeld (InputStep.TurnsKey .controlLeft) steps ∨ IsHeld (InputStep.TurnsButton .middle) steps
  rotate : data.rotatePressed = true ↔ IsHeld (InputStep.TurnsButton .right) steps
  space : data.spaceToggled = true ↔ steps.countP InputStep.togglesSpace % 2 = 1
  exit : data.exitRequested = true ↔ ∃ step ∈ steps, step.AsksForExit
  moved : data.mouseMoved = true ↔
    LastsAfter InputStep.MovesCursor (· = .beginFrame) steps
  cursor : ∀ before x y since, steps = before ++ .takeIn (.pointer x y) :: since →
    (∀ later ∈ since, ¬ later.MovesCursor) → data.mouseX = x ∧ data.mouseY = y
  cursorAtRest : (∀ step ∈ steps, ¬ step.MovesCursor) → data.mouseX = 0 ∧ data.mouseY = 0
  wheel : ¬ LastsAfter InputStep.Scrolls (· = .beginFrame) steps → data.wheelDelta = 0

section Telling

variable (steps : List InputStep)

theorem countP_inputsOf :
    (inputsOf steps).countP InputEvent.togglesSpace = steps.countP InputStep.togglesSpace := by
  unfold inputsOf
  rw [List.countP_filterMap]
  refine List.countP_congr fun step _ => ?_
  cases step <;> simp [InputStep.input?, InputStep.togglesSpace, InputEvent.togglesSpace]

theorem InputEvent.pressesEscape_iff {event : InputEvent} :
    event.pressesEscape = true ↔ ∃ repeated, event = .key .escape true repeated := by
  cases event with
  | key key pressed repeated => cases key <;> cases pressed <;> simp [pressesEscape]
  | _ => simp [pressesEscape]

theorem InputStep.asksForExit_iff {step : InputStep} :
    step.AsksForExit ↔ ∃ event ∈ step.input?, event.pressesEscape = true := by
  cases step <;> simp [AsksForExit, TurnsKey, input?, InputEvent.pressesEscape_iff]

theorem InputStep.movesCursor_iff {step : InputStep} :
    step.MovesCursor ↔ ∃ event ∈ step.input?, event.cursor?.isSome = true := by
  cases step with
  | takeIn event => cases event <;> simp [MovesCursor, input?, InputEvent.cursor?]
  | _ => simp [MovesCursor, input?, InputEvent.cursor?]

theorem InputStep.scrolls_iff {step : InputStep} :
    step.Scrolls ↔ ∃ event ∈ step.input?, event.scroll?.isSome = true := by
  cases step with
  | takeIn event => cases event <;> simp [Scrolls, input?, InputEvent.scroll?]
  | _ => simp [Scrolls, input?, InputEvent.scroll?]

theorem InputStep.beginsFrame_iff {step : InputStep} :
    step.beginsFrame = true ↔ step = .beginFrame := by
  cases step <;> simp [beginsFrame]

theorem any_inputsOf {counts : InputEvent → Bool} :
    (inputsOf steps).any counts = true ↔
      ∃ step ∈ steps, ∃ event ∈ step.input?, counts event = true := by
  simp only [inputsOf, List.any_eq_true, List.mem_filterMap, Option.mem_def]
  constructor
  · rintro ⟨event, ⟨step, hstep, hinput⟩, hcounts⟩
    exact ⟨step, hstep, event, hinput, hcounts⟩
  · rintro ⟨step, hstep, event, hinput, hcounts⟩
    exact ⟨event, ⟨step, hstep, hinput⟩, hcounts⟩

/-- The state after any steps tells of them. -/
theorem EventContext.tellsOf_afterSteps : (afterSteps steps).data.TellsOf steps := by
  rw [afterSteps_eq]
  constructor
  case pan =>
    change (latest _ _ _ || latest _ _ _) = true ↔ _
    rw [Bool.or_eq_true, latest_inputsOf_iff InputStep.holdsControl_iff,
      latest_inputsOf_iff fun step pressed => step.holdsButton_iff pressed .middle]
  case rotate =>
    exact latest_inputsOf_iff (fun step pressed => step.holdsButton_iff pressed .right) steps
  case space =>
    change decide _ = true ↔ _
    rw [decide_eq_true_iff, countP_inputsOf]
  case exit =>
    change (inputsOf steps).any _ = true ↔ _
    simp only [any_inputsOf, InputStep.asksForExit_iff]
  case moved =>
    change (inputsOf (stepsInFrame steps)).any _ = true ↔ _
    simp only [any_inputsOf_stepsInFrame fun step => step.movesCursor_iff,
      InputStep.beginsFrame_iff]
  case cursor =>
    rintro before x y since rfl hsince
    have hcursor : latest InputEvent.cursor? (0, 0)
        (inputsOf (before ++ .takeIn (.pointer x y) :: since)) = (x, y) :=
      latest_inputsOf_of_last rfl fun later hlater => by
        simpa [InputStep.movesCursor_iff, Option.bind_eq_none_iff] using hsince later hlater
    exact ⟨congrArg Prod.fst hcursor, congrArg Prod.snd hcursor⟩
  case cursorAtRest =>
    intro hsteps
    have hcursor : latest InputEvent.cursor? (0, 0) (inputsOf steps) = (0, 0) := by
      refine latest_of_not_any ?_
      rw [any_inputsOf]
      rintro ⟨step, hstep, hmoves⟩
      exact hsteps step hstep (InputStep.movesCursor_iff.mpr hmoves)
    exact ⟨congrArg Prod.fst hcursor, congrArg Prod.snd hcursor⟩
  case wheel =>
    intro hsteps
    refine latest_of_not_any ?_
    simpa only [any_inputsOf_stepsInFrame fun step => step.scrolls_iff,
      InputStep.beginsFrame_iff] using hsteps

/-- The end of the run is asked for once and for all. -/
theorem EventContext.exitRequested_append (more : List InputStep)
    (h : (afterSteps steps).data.exitRequested = true) :
    (afterSteps (steps ++ more)).data.exitRequested = true := by
  obtain ⟨step, hstep, hasks⟩ := (tellsOf_afterSteps steps).exit.mp h
  exact (tellsOf_afterSteps (steps ++ more)).exit.mpr
    ⟨step, List.mem_append_left more hstep, hasks⟩

/-- After each step the input state is a function of all the steps up to it: what is held, counted,
moved and scrolled is told by the steps that concern it, and once the end of the run is asked for it
stays so. -/
theorem EventContext.afterSteps_tells_history (steps more : List InputStep) :
    (afterSteps steps).data.TellsOf steps ∧
      ((afterSteps steps).data.exitRequested = true →
        (afterSteps (steps ++ more)).data.exitRequested = true) :=
  ⟨tellsOf_afterSteps steps, exitRequested_append steps more⟩

/-- Releasing Control does not end what the middle button holds, and neither does a new frame. -/
example : (EventContext.afterSteps [.takeIn (.key .controlLeft true false),
    .takeIn (.button .middle true), .takeIn (.key .controlLeft false false),
    .beginFrame]).data.panPressed = true := by
  rfl

end Telling

end Shaderbox
