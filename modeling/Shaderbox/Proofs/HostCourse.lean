import Mathlib.Data.List.DropRight
import Shaderbox.Proofs.Hosting
import Shaderbox.Proofs.InputHistory

/-!
# What the course of a host tells

The course of a host is the list of its exchanges. From it alone it can be told whether the window
is open, what was delivered and what the application was called for since it was opened or since
the last frame, and whether a step on the way to an open window failed. Most exchanges are inert:
they change nothing of that.
-/

namespace Shaderbox

variable {σ : Type}

/-- The exchanges of a host, in order. -/
abbrev Course (σ : Type) := List (Exchange (Hosting σ))

namespace Exchange

/-- A call of the application, with its answer or with the cause of its abort. -/
abbrev app (callback : AppCall) (state : σ) (answer : Except Abort (callback.Answer × σ)) :
    Exchange (Hosting σ) :=
  ⟨.app callback state, answer⟩

/-- A request to the window system, with its answer. -/
abbrev window (call : WindowCall) (answer : call.Answer) : Exchange (Hosting σ) :=
  ⟨.world (.window call), answer⟩

/-- A callback of the event loop. -/
abbrev delivered (callback : LoopCallback) : Exchange (Hosting σ) :=
  ⟨.note (.delivered callback), ()⟩

/-- Whether the application was made ready, for what it answered. -/
def isReady : Exchange (Hosting σ) → Bool
  | ⟨.app (.contextReady ..) _, _⟩ => true
  | _ => false

/-- Whether the application is ready, so that the window is open from here on. -/
def opens : Exchange (Hosting σ) → Bool
  | ⟨.app (.contextReady ..) _, .ok (none, _)⟩ => true
  | _ => false

/-- The input event that the application was called with. -/
def input? : Exchange (Hosting σ) → Option InputEvent
  | ⟨.app (.input _ event) _, _⟩ => some event
  | _ => none

/-- Whether the application was called for a frame. -/
def isFrame : Exchange (Hosting σ) → Bool
  | ⟨.app (.frame _) _, _⟩ => true
  | _ => false

/-- Whether the application was torn down. -/
def isTeardown : Exchange (Hosting σ) → Bool
  | ⟨.app .teardown _, _⟩ => true
  | _ => false

/-- Whether the application was called for anything. -/
def isAppCall : Exchange (Hosting σ) → Bool
  | ⟨.app .., _⟩ => true
  | _ => false

/-- Whether the run is to end, or the event loop announced its own end. -/
def isEnding : Exchange (Hosting σ) → Bool
  | ⟨.note .shuttingDown, _⟩ => true
  | ⟨.note (.delivered .exiting), _⟩ => true
  | _ => false

/-- Whether a step on the way to an open window failed. -/
def failsOpening : Exchange (Hosting σ) → Bool
  | ⟨.world (.window (.findConfigs ..)), .error _⟩ => true
  | ⟨.world (.window (.createWindow ..)), made⟩ => !made
  | ⟨.world (.window .nativeHandle), reason?⟩ => reason?.isSome
  | ⟨.world (.window (.createContext ..)), reason?⟩ => reason?.isSome
  | ⟨.world (.window .describeSurface), reason?⟩ => reason?.isSome
  | ⟨.world (.window (.createSurface _)), reason?⟩ => reason?.isSome
  | ⟨.world (.window .makeCurrent), reason?⟩ => reason?.isSome
  | ⟨.app (.contextReady ..) _, .ok (some _, _)⟩ => true
  | _ => false

/-- Whether a run went further than to wait for its window: an application is handed the events of
the window system all the time. -/
def starts (exchange : Exchange (Hosting σ)) : Bool :=
  exchange.isReady || exchange.input?.isSome || exchange.isFrame || exchange.isTeardown ||
    exchange.isEnding || exchange.failsOpening

/-- Whether a window is to be made. -/
def createsWindow : Exchange (Hosting σ) → Bool
  | ⟨.world (.window (.createWindow ..)), _⟩ => true
  | _ => false

/-- Whether the window goes. -/
def dropsWindow : Exchange (Hosting σ) → Bool
  | ⟨.world (.window .dropWindow), _⟩ => true
  | _ => false

/-- Whether the event loop is told to end. -/
def exits : Exchange (Hosting σ) → Bool
  | ⟨.world (.window .exitEventLoop), _⟩ => true
  | _ => false

/-- Whether a motion of the cursor was delivered. -/
def movesCursor : Exchange (Hosting σ) → Bool
  | ⟨.note (.delivered (.windowEvent (.cursorMoved ..))), _⟩ => true
  | _ => false

/-- Whether a press of the Escape key was delivered. -/
def pressesEscape : Exchange (Hosting σ) → Bool
  | ⟨.note (.delivered (.windowEvent (.keyboard position true _))), _⟩ => position.key = .escape
  | _ => false

theorem isReady_of_opens {exchange : Exchange (Hosting σ)} (h : exchange.opens = true) :
    exchange.isReady = true := by
  unfold opens at h
  split at h
  · rfl
  · contradiction

theorem failsOpening_of_opens {exchange : Exchange (Hosting σ)} (h : exchange.opens = true) :
    exchange.failsOpening = false := by
  unfold opens at h
  split at h
  · rfl
  · contradiction

theorem starts_of_opens {exchange : Exchange (Hosting σ)} (h : exchange.opens = true) :
    exchange.starts = true := by
  simp [starts, isReady_of_opens h]

theorem opens_eq_false {exchange : Exchange (Hosting σ)}
    (h : exchange.isTeardown = true ∨ exchange.isEnding = true ∨ exchange.pressesEscape = true) :
    exchange.opens = false := by
  rcases h with h | h | h
  · unfold isTeardown at h
    split at h
    · rfl
    · contradiction
  · unfold isEnding at h
    split at h
    · rfl
    · rfl
    · contradiction
  · unfold pressesEscape at h
    split at h
    · rfl
    · contradiction

/-- Whether an exchange ends the program with a cause: a callback of the application that aborts, or
a promise that the platform broke. -/
def Breaks : Exchange (Hosting σ) → Abort → Prop
  | ⟨.app .., .error reason⟩, cause => reason = cause
  | ⟨.release _, .error reason⟩, cause => reason = cause
  | ⟨.world (.window (.findConfigs ..)), .ok configs⟩, cause =>
    configs = [] ∧ cause = .noDisplayConfig
  | ⟨.world (.window .scaleFactor), scaleFactor⟩, cause =>
    isNormalPositive scaleFactor = false ∧ cause = .invalidScaleFactor
  | _, _ => False

/-- Whether an exchange changes nothing of what a course tells. -/
def inert (exchange : Exchange (Hosting σ)) : Bool :=
  !(exchange.opens || exchange.starts || exchange.exits || exchange.dropsWindow ||
    exchange.movesCursor || exchange.pressesEscape)

theorem inert_iff {exchange : Exchange (Hosting σ)} : exchange.inert = true ↔
    exchange.opens = false ∧ exchange.isReady = false ∧ exchange.input? = none ∧
      exchange.isFrame = false ∧ exchange.isTeardown = false ∧ exchange.isEnding = false ∧
      exchange.failsOpening = false ∧ exchange.exits = false ∧ exchange.dropsWindow = false ∧
      exchange.movesCursor = false ∧ exchange.pressesEscape = false := by
  simp [inert, starts, and_assoc]

end Exchange

namespace Course

/-- Whether the window that was opened last is still there. -/
def holdsWindow (past : Course σ) : Bool :=
  past.foldl (fun held exchange =>
    if exchange.opens then true else if exchange.dropsWindow then false else held) false

/-- What was exchanged since the window was opened. -/
def sinceOpening (past : Course σ) : Course σ :=
  past.rtakeWhile fun exchange => !exchange.opens

/-- What was exchanged since the last frame, or since the window was opened. -/
def sinceFrame (past : Course σ) : Course σ :=
  past.rtakeWhile fun exchange => !(exchange.opens || exchange.isFrame)

/-- The input events that the application was called with. -/
def inputs (past : Course σ) : List InputEvent := past.filterMap Exchange.input?

variable {past : Course σ} {exchange : Exchange (Hosting σ)}

@[simp] theorem holdsWindow_concat (past : Course σ) (exchange : Exchange (Hosting σ)) :
    holdsWindow (past ++ [exchange]) =
      if exchange.opens then true else if exchange.dropsWindow then false
      else holdsWindow past := by
  unfold holdsWindow
  rw [List.foldl_append]
  rfl

@[simp] theorem sinceOpening_concat (past : Course σ) (exchange : Exchange (Hosting σ)) :
    sinceOpening (past ++ [exchange]) =
      if exchange.opens then [] else sinceOpening past ++ [exchange] := by
  unfold sinceOpening
  rw [List.rtakeWhile_concat]
  cases exchange.opens <;> rfl

@[simp] theorem sinceFrame_concat (past : Course σ) (exchange : Exchange (Hosting σ)) :
    sinceFrame (past ++ [exchange]) =
      if exchange.opens || exchange.isFrame then [] else sinceFrame past ++ [exchange] := by
  unfold sinceFrame
  rw [List.rtakeWhile_concat]
  cases exchange.opens || exchange.isFrame <;> rfl

@[simp] theorem inputs_nil : inputs ([] : Course σ) = [] := rfl

@[simp] theorem inputs_concat (past : Course σ) (exchange : Exchange (Hosting σ)) :
    inputs (past ++ [exchange]) = inputs past ++ exchange.input?.toList := by
  unfold inputs
  rw [List.filterMap_append]
  cases h : exchange.input? <;> simp [h]

theorem rtakeWhile_append_of_forall {α : Type} {holds : α → Bool} {back : List α} (front : List α)
    (hback : ∀ item ∈ back, holds item = true) :
    (front ++ back).rtakeWhile holds = front.rtakeWhile holds ++ back := by
  unfold List.rtakeWhile
  rw [List.reverse_append, List.takeWhile_append_of_pos (by simpa using hback),
    List.reverse_append, List.reverse_reverse]

theorem sinceOpening_append {back : Course σ} (past : Course σ)
    (hback : ∀ exchange ∈ back, exchange.opens = false) :
    sinceOpening (past ++ back) = sinceOpening past ++ back :=
  rtakeWhile_append_of_forall past fun exchange hmem => by simp [hback exchange hmem]

/-- What came since the last frame are the exchanges with no other frame behind them. -/
theorem any_sinceFrame_iff {holds : Exchange (Hosting σ) → Bool}
    (hholds : ∀ exchange, holds exchange = true →
      exchange.opens = false ∧ exchange.isFrame = false) (past : Course σ) :
    (sinceFrame past).any holds = true ↔ ∃ before exchange between,
      past = before ++ exchange :: between ∧ holds exchange = true ∧
        ∀ other ∈ between, other.opens = false ∧ other.isFrame = false := by
  constructor
  · intro hany
    obtain ⟨exchange, hmem, hexchange⟩ := List.any_eq_true.mp hany
    obtain ⟨earlier, hpast⟩ : sinceFrame past <:+ past := List.rtakeWhile_suffix _ _
    obtain ⟨before, between, hsince⟩ := List.append_of_mem hmem
    refine ⟨earlier ++ before, exchange, between, ?_, hexchange, fun other hother => ?_⟩
    · rw [← hpast, hsince, List.append_assoc]
    · have hkept := List.mem_rtakeWhile_imp
        (show other ∈ sinceFrame past by rw [hsince]; simp [hother])
      simpa using hkept
  · rintro ⟨before, exchange, between, rfl, hexchange, hbetween⟩
    have hsince : sinceFrame (before ++ exchange :: between) =
        sinceFrame before ++ exchange :: between := by
      refine rtakeWhile_append_of_forall before fun other hother => ?_
      rcases List.mem_cons.mp hother with rfl | hother
      · simp [hholds _ hexchange]
      · simp [hbetween other hother]
    rw [hsince]
    simp [hexchange]

/-- A window is there only if one was opened. -/
theorem any_opens_of_holdsWindow (h : holdsWindow past = true) :
    past.any Exchange.opens = true := by
  induction past using List.reverseRecOn with
  | nil => contradiction
  | append_singleton rest last ih =>
    rw [any_concat]
    rw [holdsWindow_concat] at h
    cases hopens : last.opens with
    | true => rfl
    | false =>
      rw [hopens, if_neg Bool.false_ne_true] at h
      split at h
      · contradiction
      · exact ih h

end Course

end Shaderbox
