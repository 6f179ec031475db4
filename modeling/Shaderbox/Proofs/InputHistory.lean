import Shaderbox.Input.Context

/-!
# The input state as a function of the history

What the standard bindings make of the input events is told here without going through them one by
one: the cursor and the sources held are as the last event that concerns them says, a toggle is a
matter of parity, and what belongs to a frame is told from the events since the frame began alone.
-/

namespace Shaderbox

namespace InputEvent

/-- Where the cursor is after an event that moves it. -/
def cursor? : InputEvent → Option (Float32 × Float32)
  | .pointer x y => some (x, y)
  | _ => none

/-- What an event that scrolls amounts to. -/
def scroll? : InputEvent → Option Float32
  | .wheel scroll => some (wheelScale * scroll.linesY)
  | _ => none

/-- Whether a button is held after an event that concerns it; losing the focus releases it. -/
def holdsButton? (button : MouseButton) : InputEvent → Option Bool
  | .button which pressed => if which = button then some pressed else none
  | .focused false => some false
  | _ => none

/-- Whether the left Control key is held after an event that concerns it. -/
def holdsControl? : InputEvent → Option Bool
  | .key .controlLeft pressed _ => some pressed
  | .focused false => some false
  | _ => none

/-- Whether the space bar goes down, and not just because it is held. -/
def togglesSpace : InputEvent → Bool
  | .key .space true false => true
  | _ => false

/-- Whether Escape goes down. -/
def pressesEscape : InputEvent → Bool
  | .key .escape true _ => true
  | _ => false

end InputEvent

/-- What the last event that gives a value gives, or a standard value if none does. -/
def latest {α : Type} (value? : InputEvent → Option α) (standard : α)
    (events : List InputEvent) : α :=
  (events.filterMap value?).getLast?.getD standard

@[simp] theorem latest_nil {α : Type} (value? : InputEvent → Option α) (standard : α) :
    latest value? standard [] = standard := rfl

/-- An event that gives a value determines it, any other leaves it. -/
@[simp] theorem latest_concat {α : Type} (value? : InputEvent → Option α) (standard : α)
    (events : List InputEvent) (event : InputEvent) :
    latest value? standard (events ++ [event]) =
      (value? event).getD (latest value? standard events) := by
  unfold latest
  rw [List.filterMap_append, List.getLast?_append]
  cases hvalue : value? event with
  | none => simp [hvalue]
  | some value => simp [hvalue]

theorem any_concat {α : Type} (holds : α → Bool) (items : List α) (item : α) :
    (items ++ [item]).any holds = (holds item || items.any holds) := by
  rw [List.any_append, Bool.or_comm]
  simp

theorem any_concat_of_false {α : Type} {holds : α → Bool} {items : List α} {item : α}
    (h : holds item = false) : (items ++ [item]).any holds = items.any holds := by
  rw [any_concat, h, Bool.false_or]

theorem any_concat_of_true {α : Type} {holds : α → Bool} {items : List α} {item : α}
    (h : holds item = true) : (items ++ [item]).any holds = true := by
  rw [any_concat, h, Bool.true_or]

/-- A parity changes with each event that is counted. -/
theorem decide_odd_countP_concat (counts : InputEvent → Bool) (events : List InputEvent)
    (event : InputEvent) :
    decide ((events ++ [event]).countP counts % 2 = 1) =
      (counts event ^^ decide (events.countP counts % 2 = 1)) := by
  rw [List.countP_append, List.countP_singleton]
  cases counts event with
  | false => simp
  | true =>
    rw [if_pos rfl, Bool.true_xor, ← decide_not, decide_eq_decide]
    omega

/-- What an event does to the sources held, one source at a time. -/
theorem HeldSources.after_eq (held : HeldSources) (event : InputEvent) :
    held.after event =
      { control := event.holdsControl?.getD held.control
        middle := (event.holdsButton? .middle).getD held.middle } := by
  cases event with
  | key key pressed repeated => cases key <;> rfl
  | button button pressed => cases button <;> rfl
  | focused gained => cases gained <;> rfl
  | _ => rfl

/-- What an event does to the input state, one value at a time. -/
theorem HeldSources.effect_track_eq (data : EventData) (event : InputEvent) :
    effect (EventContext.track data event) event =
      { data with
        wheelDelta := event.scroll?.getD data.wheelDelta
        mouseX := (event.cursor?.getD (data.mouseX, data.mouseY)).1
        mouseY := (event.cursor?.getD (data.mouseX, data.mouseY)).2
        mouseMoved := event.cursor?.isSome || data.mouseMoved
        rotatePressed := (event.holdsButton? .right).getD data.rotatePressed
        spaceToggled := event.togglesSpace ^^ data.spaceToggled
        exitRequested := event.pressesEscape || data.exitRequested } := by
  obtain ⟨wheelDelta, mouseX, mouseY, mouseMoved, rotatePressed, panPressed, spaceToggled,
    exitRequested⟩ := data
  cases spaceToggled <;> cases event with
  | key key pressed repeated => cases key <;> cases pressed <;> cases repeated <;> rfl
  | button button pressed => cases button <;> rfl
  | focused gained => cases gained <;> rfl
  | _ => rfl

/-- The input state after a history of events, of which some came since the frame began. -/
def EventData.after (history recent : List InputEvent) : EventData where
  wheelDelta := latest InputEvent.scroll? 0 recent
  mouseX := (latest InputEvent.cursor? (0, 0) history).1
  mouseY := (latest InputEvent.cursor? (0, 0) history).2
  mouseMoved := recent.any fun event => event.cursor?.isSome
  rotatePressed := latest (InputEvent.holdsButton? .right) false history
  panPressed := latest InputEvent.holdsControl? false history ||
    latest (InputEvent.holdsButton? .middle) false history
  spaceToggled := history.countP InputEvent.togglesSpace % 2 = 1
  exitRequested := history.any InputEvent.pressesEscape

namespace EventContext

/-- The context with the standard bindings after a history of events. -/
def after (history recent : List InputEvent) : EventContext where
  data := .after history recent
  bindings := [.standard
    { control := latest InputEvent.holdsControl? false history
      middle := latest (InputEvent.holdsButton? .middle) false history }]

theorem standard_eq_after : standard = after [] [] := rfl

/-- Clearing what belongs to a frame forgets the events since it began, and no others. -/
theorem beginFrame_after (history recent : List InputEvent) :
    (after history recent).beginFrame = after history [] := rfl

/-- Taking in an event adds it to the history. -/
theorem handle_after (history recent : List InputEvent) (event : InputEvent) :
    (after history recent).handle event = after (history ++ [event]) (recent ++ [event]) := by
  simp only [handle, runBindings, Binding.react, HeldSources.react, HeldSources.after_eq,
    HeldSources.effect_track_eq, after, EventData.after, latest_concat, decide_odd_countP_concat,
    any_concat]

end EventContext

end Shaderbox
