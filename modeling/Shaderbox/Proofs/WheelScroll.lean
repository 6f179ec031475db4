import Shaderbox.Proofs.ExactProducts
import Shaderbox.Proofs.InputSteps

/-!
# What is scrolled within a frame

The scroll of a frame is set by every wheel event and not added to, so that at the end of the frame
it is what the last of them amounts to. Whether that is all that was scrolled depends on how the
window system splits it into events: it is so exactly if the amounts before the last one cancel out.
-/

namespace Shaderbox

/-- What a wheel event amounts to, in lines. -/
def InputEvent.lines? : InputEvent → Option Float32
  | .wheel scroll => some scroll.linesY
  | _ => none

/-- What the wheel events since the frame began amount to, each in lines. -/
def linesInFrame (steps : List InputStep) : List Float32 :=
  (inputsOf (stepsInFrame steps)).filterMap InputEvent.lines?

theorem InputEvent.scroll?_eq (event : InputEvent) :
    event.scroll? = event.lines?.map (wheelScale * ·) := by
  cases event <;> rfl

theorem floatNumber?_wheelScale : floatNumber? wheelScale = some (1 / 2) := by
  decide +kernel

/-- That single precision measures what was scrolled: each wheel event amounts to a number of lines,
and what it scales to is the number of some float. -/
structure Measures (lines : List Float32) (amounts : List ℚ) : Prop where
  numbers : lines.map floatNumber? = amounts.map some
  scale : ∀ amount ∈ amounts, ∃ scaled, floatNumber? scaled = some (amount / 2)

section Scrolling

variable {lines : List Float32} {amounts : List ℚ}

/-- The scroll of a frame is what the last wheel event amounts to, scaled. -/
theorem EventContext.wheelDelta_afterSteps (steps : List InputStep) :
    (afterSteps steps).data.wheelDelta =
      ((linesInFrame steps).getLast?.map (wheelScale * ·)).getD 0 := by
  have hscroll : InputEvent.scroll? = fun event => event.lines?.map (wheelScale * ·) :=
    funext InputEvent.scroll?_eq
  rw [afterSteps_eq]
  change latest InputEvent.scroll? 0 (inputsOf (stepsInFrame steps)) = _
  rw [latest, hscroll, ← List.map_filterMap, List.getLast?_map]
  rfl

/-- Scaling does not round what is measured. -/
theorem Measures.scaled_last (h : Measures lines amounts) :
    floatNumber? ((lines.getLast?.map (wheelScale * ·)).getD 0) =
      some (amounts.getLast?.getD 0 / 2) := by
  have hlast : lines.getLast?.map floatNumber? = amounts.getLast?.map some := by
    rw [← List.getLast?_map, h.numbers, List.getLast?_map]
  cases hamounts : amounts.getLast? with
  | none =>
    rw [hamounts, Option.map_none, Option.map_eq_none_iff] at hlast
    rw [hlast]
    decide +kernel
  | some amount =>
    rw [hamounts, Option.map_some, Option.map_eq_some_iff] at hlast
    obtain ⟨line, hline, hnumber⟩ := hlast
    obtain ⟨scaled, hscaled⟩ := h.scale amount (List.mem_of_getLast? hamounts)
    have hhalf : amount / 2 = 1 / 2 * amount := by ring
    rw [hhalf] at hscaled
    rw [hline, Option.map_some, Option.getD_some, Option.getD_some, hhalf]
    exact floatNumber?_mul floatNumber?_wheelScale hnumber hscaled

theorem sum_eq_dropLast (amounts : List ℚ) :
    amounts.sum = amounts.dropLast.sum + amounts.getLast?.getD 0 := by
  rcases amounts.eq_nil_or_concat with rfl | ⟨before, last, rfl⟩ <;> simp

/-- The scroll of a frame is what the last wheel event in it amounts to, scaled, whatever came
before. So it is all that was scrolled in the frame exactly if what came before cancels out. -/
theorem EventContext.wheelDelta_allScrolled_iff (steps : List InputStep) (amounts : List ℚ)
    (hamounts : Measures (linesInFrame steps) amounts) :
    (afterSteps steps).data.wheelDelta =
        ((linesInFrame steps).getLast?.map (wheelScale * ·)).getD 0 ∧
      (floatNumber? (afterSteps steps).data.wheelDelta = some (amounts.sum / 2) ↔
        amounts.dropLast.sum = 0) := by
  refine ⟨wheelDelta_afterSteps steps, ?_⟩
  rw [wheelDelta_afterSteps, hamounts.scaled_last, sum_eq_dropLast, Option.some_inj, add_div,
    right_eq_add]
  simp

/-- A notch of a wheel and as much from a touchpad scroll as far as the notch alone. -/
theorem EventContext.wheelDelta_allScrolled_iff_notchAndTouchpad :
    let steps : List InputStep := [.takeIn (.wheel (.lines 0 1)), .takeIn (.pointer 3 4),
      .takeIn (.wheel (.pixels 0 20))]
    Measures (linesInFrame steps) [1, 1] ∧ (afterSteps steps).data.wheelDelta = 0.5 ∧
      floatNumber? (afterSteps steps).data.wheelDelta ≠ some (([1, 1] : List ℚ).sum / 2) := by
  intro steps
  have hmeasures : Measures (linesInFrame steps) [1, 1] :=
    ⟨by decide +kernel, fun amount hamount => ⟨0.5, by
      obtain rfl : amount = 1 := by simpa using hamount
      decide +kernel⟩⟩
  obtain ⟨hlast, hall⟩ := wheelDelta_allScrolled_iff steps [1, 1] hmeasures
  refine ⟨hmeasures, hlast.trans (by decide +kernel), fun h => ?_⟩
  have := hall.mp h
  simp at this

end Scrolling

end Shaderbox
