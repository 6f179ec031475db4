import Shaderbox.Clock
import Mathlib.Data.List.Chain

/-!
# What a clock accounts for

A clock is ticked once for every frame, and its baseline may be reset in between. The time of a
frame is measured from the step before, whichever that was, so a reset moves it; the elapsed time is
measured from the start, which nothing moves. The system's clock may stand still or jump in either
direction: the time of a frame stays within the bounds all the same.

Only the bounds keep the two apart. As long as nothing is reset, and no frame is shorter or longer
than they allow, the times of the frames add up to the time that has elapsed.
-/

namespace Shaderbox

namespace Duration

/-- A clamped duration lies within bounds that enclose something. -/
theorem clamp_mem_bounds {least greatest : Duration}
    (h : least.nanoseconds ≤ greatest.nanoseconds) (time : Duration) :
    least.nanoseconds ≤ (time.clamp least greatest).nanoseconds ∧
      (time.clamp least greatest).nanoseconds ≤ greatest.nanoseconds := by
  unfold clamp
  dsimp only
  omega

/-- A duration within the bounds is not clamped. -/
theorem clamp_of_mem_bounds {time least greatest : Duration}
    (hleast : least.nanoseconds ≤ time.nanoseconds)
    (hgreatest : time.nanoseconds ≤ greatest.nanoseconds) : time.clamp least greatest = time := by
  unfold clamp
  rw [max_eq_left hleast, min_eq_left hgreatest]

/-- No time lies between an instant and one that is not later. -/
theorem nanoseconds_between (start finish : Int) :
    ((between start finish).nanoseconds : Int) = max 0 (finish - start) := by
  unfold between
  dsimp only
  omega

end Duration

/-- How long frames take together, in nanoseconds. -/
def FrameTime.total : List FrameTime → Nat
  | [] => 0
  | time :: rest => time.dt.nanoseconds + total rest

/-- What is done with a clock, at an instant. -/
inductive ClockStep where
  | tick (now : Int)
  | reset (now : Int)
deriving DecidableEq

namespace ClockStep

/-- When a step happens. -/
def instant : ClockStep → Int
  | tick now => now
  | reset now => now

/-- Whether a frame is timed in a step. -/
def isTick : ClockStep → Bool
  | tick _ => true
  | reset _ => false

end ClockStep

namespace FrameClock

/-- A clock after some steps. -/
def after (clock : FrameClock) : List ClockStep → FrameClock
  | [] => clock
  | .tick now :: rest => (clock.tick now).2.after rest
  | .reset now :: rest => (clock.reset now).after rest

/-- The timing of all frames in some steps, in order. -/
def times (clock : FrameClock) : List ClockStep → List FrameTime
  | [] => []
  | .tick now :: rest => (clock.tick now).1 :: (clock.tick now).2.times rest
  | .reset now :: rest => (clock.reset now).times rest

/-- The baseline of a clock after some steps: the instant of the last of them. -/
def baseline (start : Int) (steps : List ClockStep) : Int :=
  (steps.getLast?.map ClockStep.instant).getD start

theorem baseline_cons (start : Int) (step : ClockStep) (rest : List ClockStep) :
    baseline start (step :: rest) = baseline step.instant rest := by
  unfold baseline
  rw [List.getLast?_cons, Option.map_some, Option.getD_some, Option.getD_map]

section Steps

variable (clock : FrameClock)

/-- Steps move the baseline of a clock and count the ticks. They touch nothing else. -/
theorem after_eq (steps : List ClockStep) :
    clock.after steps =
      { clock with
        last := baseline clock.last steps
        index := clock.index + UInt64.ofNat (steps.countP ClockStep.isTick) } := by
  induction steps generalizing clock with
  | nil => simp [after, baseline]
  | cons step rest ih =>
    rw [baseline_cons]
    cases step with
    | tick now =>
      have hindex (count : Nat) :
          clock.index + 1 + UInt64.ofNat count = clock.index + UInt64.ofNat (count + 1) := by
        rw [UInt64.ofNat_add]
        ac_rfl
      rw [after, ih, List.countP_cons_of_pos rfl, ← hindex]
      rfl
    | reset now =>
      rw [after, ih, List.countP_cons_of_neg Bool.false_ne_true]
      rfl

/-- Steps that follow others are timed by the clock that those leave. -/
theorem times_append (front back : List ClockStep) :
    clock.times (front ++ back) = clock.times front ++ (clock.after front).times back := by
  induction front generalizing clock with
  | nil => rfl
  | cons step rest ih =>
    cases step with
    | tick now => exact congrArg _ (ih _)
    | reset now => exact ih _

/-- Every tick times a frame, and no reset does. -/
theorem length_times (steps : List ClockStep) :
    (clock.times steps).length = steps.countP ClockStep.isTick := by
  induction steps generalizing clock with
  | nil => rfl
  | cons step rest ih =>
    cases step with
    | tick now =>
      rw [times, List.length_cons, ih, List.countP_cons_of_pos rfl]
    | reset now =>
      rw [times, ih, List.countP_cons_of_neg Bool.false_ne_true]

end Steps

/-- Whether an instant follows another by no less and no more than the bounds allow. -/
structure Paced (least greatest : Duration) (before now : Int) : Prop where
  forward : before ≤ now
  least_le : least.nanoseconds ≤ (Duration.between before now).nanoseconds
  le_greatest : (Duration.between before now).nanoseconds ≤ greatest.nanoseconds

section Pace

variable (clock : FrameClock) (instants : List Int)

/-- At a pace that the bounds allow, the times of the frames add up to the distance between the
baseline and the last tick. The induction is on the ticks, each of which is the next baseline. -/
theorem total_times (hpaced : (clock.last :: instants).IsChain (Paced clock.least clock.greatest)) :
    (FrameTime.total (clock.times (instants.map .tick)) : Int) =
      instants.getLast?.getD clock.last - clock.last := by
  induction instants generalizing clock with
  | nil => exact (Int.sub_self _).symm
  | cons now rest ih =>
    obtain ⟨hnow, hrest⟩ := List.isChain_cons_cons.mp hpaced
    have hdt : (clock.tick now).1.dt = Duration.between clock.last now :=
      Duration.clamp_of_mem_bounds hnow.least_le hnow.le_greatest
    have hsum := ih (clock.tick now).2 hrest
    have hgap : ((Duration.between clock.last now).nanoseconds : Int) = now - clock.last := by
      rw [Duration.nanoseconds_between]
      exact Int.max_eq_right (Int.sub_nonneg_of_le hnow.forward)
    rw [List.map_cons, times, FrameTime.total, hdt, Int.natCast_add, hgap, hsum,
      List.getLast?_cons, Option.getD_some]
    change now - clock.last + (rest.getLast?.getD now - now) = _
    omega

/-- The elapsed times are those from the start to each tick. -/
theorem elapsed_times :
    (clock.times (instants.map .tick)).map (·.elapsed) =
      instants.map (Duration.between clock.start) := by
  induction instants generalizing clock with
  | nil => rfl
  | cons now rest ih => exact congrArg _ (ih _)

end Pace

end FrameClock

/-- Whether a frame is timed as it should be by a tick that comes behind some steps of a clock. -/
structure FrameTime.Accounts (least greatest : Duration) (start : Int) (before : List ClockStep)
    (now : Int) (time : FrameTime) : Prop where
  least_le : least.nanoseconds ≤ time.dt.nanoseconds
  le_greatest : time.dt.nanoseconds ≤ greatest.nanoseconds
  dt_eq : time.dt = (Duration.between (FrameClock.baseline start before) now).clamp least greatest
  elapsed_eq : (time.elapsed.nanoseconds : Int) = max 0 (now - start)
  index_eq : time.index.toNat = before.countP ClockStep.isTick % UInt64.size

namespace FrameClock

/-- A clock with some bounds as it is when it starts. -/
def started (least greatest : Duration) (start : Int) : FrameClock :=
  ⟨start, start, 0, least, greatest⟩

section Started

variable {least greatest : Duration} {start : Int}

/-- A tick behind any steps of a new clock times its frame as it should. -/
theorem accounts_tick (h : least.nanoseconds ≤ greatest.nanoseconds) (before : List ClockStep)
    (now : Int) :
    (((started least greatest start).after before).tick now).1.Accounts
      least greatest start before now := by
  obtain ⟨hleast, hgreatest⟩ := Duration.clamp_mem_bounds h (.between (baseline start before) now)
  rw [after_eq]
  exact
    { least_le := hleast
      le_greatest := hgreatest
      dt_eq := rfl
      elapsed_eq := Duration.nanoseconds_between start now
      index_eq := by simp [tick, started] }

/-- At a pace that the bounds allow, the times of all frames of a new clock add up to the time that
has elapsed at the last of them. -/
theorem total_eq_elapsed {instants : List Int} {final : FrameTime}
    (hpaced : (start :: instants).IsChain (Paced least greatest))
    (hfinal : ((started least greatest start).times (instants.map .tick)).getLast? = some final) :
    FrameTime.total ((started least greatest start).times (instants.map .tick)) =
      final.elapsed.nanoseconds := by
  have helapsed : instants.getLast?.map (Duration.between start) = some final.elapsed := by
    have htimes := elapsed_times (started least greatest start) instants
    rw [← List.getLast?_map, ← show _ = instants.map (Duration.between start) from htimes,
      List.getLast?_map, hfinal, Option.map_some]
  obtain ⟨now, hnow, hbetween⟩ := Option.map_eq_some_iff.mp helapsed
  have htotal := total_times (started least greatest start) instants hpaced
  rw [hnow, Option.getD_some] at htotal
  change (FrameTime.total _ : Int) = now - start at htotal
  have hnanoseconds := Duration.nanoseconds_between start now
  rw [← hbetween]
  omega

/-- Bounds that enclose something make a clock. However it is ticked and reset, at instants that may
be repeated or go backwards, every tick times one frame: for no less and no more than the bounds,
with the time that has elapsed since the start, and numbered by the ticks before it. Where nothing
is reset and every gap, the first one from the start, lies within the bounds, the times of all
frames add up to the time that has elapsed at the last of them. -/
theorem times_account (h : least.nanoseconds ≤ greatest.nanoseconds) (start : Int) :
    ∃ clock, withBounds least greatest start = .ok clock ∧
      (∀ before now behind, ∃ time rest,
        clock.times (before ++ .tick now :: behind) = clock.times before ++ time :: rest ∧
        (clock.times before).length = before.countP ClockStep.isTick ∧
        time.Accounts least greatest start before now) ∧
      ∀ (instants : List Int) (final : FrameTime),
        (start :: instants).IsChain (Paced least greatest) →
        (clock.times (instants.map .tick)).getLast? = some final →
          FrameTime.total (clock.times (instants.map .tick)) = final.elapsed.nanoseconds := by
  refine ⟨started least greatest start, if_pos h, ?_, ?_⟩
  · intro before now behind
    exact ⟨_, _, times_append _ _ _, length_times _ _, accounts_tick h before now⟩
  · intro instants final hpaced hfinal
    exact total_eq_elapsed hpaced hfinal

/-- A clock whose first tick lies before its start goes on from a reset, and keeps account of an
even pace. -/
theorem times_account_jumps :
    (1 : Nat) ≤ 50 ∧ (10 :: [11, 31, 81]).IsChain (Paced ⟨1⟩ ⟨50⟩) ∧
      ∃ clock time rest, withBounds ⟨1⟩ ⟨50⟩ 10 = .ok clock ∧
        clock.times [.tick 5, .reset 90, .tick 100] =
          clock.times [.tick 5, .reset 90] ++ time :: rest ∧
        time.dt = ⟨10⟩ ∧ (time.elapsed.nanoseconds : Int) = 90 ∧ time.index.toNat = 1 ∧
        FrameTime.total (clock.times [.tick 11, .tick 31, .tick 81]) = 71 := by
  obtain ⟨clock, hclock, htick, htotal⟩ := @times_account ⟨1⟩ ⟨50⟩ (by decide) 10
  obtain ⟨time, rest, htimes, -, haccounts⟩ := htick [.tick 5, .reset 90] 100 []
  have hpaced : (10 :: [11, 31, 81]).IsChain (Paced ⟨1⟩ ⟨50⟩) :=
    .cons_cons ⟨by decide, by decide, by decide⟩ <|
      .cons_cons ⟨by decide, by decide, by decide⟩ <|
        .cons_cons ⟨by decide, by decide, by decide⟩ (.singleton _)
  obtain rfl := Except.ok.inj hclock
  exact ⟨by decide, hpaced, _, time, rest, rfl, htimes, haccounts.dt_eq, haccounts.elapsed_eq,
    haccounts.index_eq, htotal _ _ hpaced rfl⟩

end Started

end FrameClock

end Shaderbox
