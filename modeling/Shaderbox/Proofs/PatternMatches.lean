import Mathlib.Logic.Function.Iterate
import Shaderbox.Pattern.Occurrence

/-!
# What it means that a pattern occurs

Matching goes through sets of places. `Describes` says instead, pattern by pattern, which stretches
of a text a pattern describes, and `occurs_iff` that matching finds one just where there is one.

The one case with an argument in it is a repetition without a bound, which matching gives up after
as many rounds as the text has places. A stretch never runs backwards. So the rounds that matter
each take a character, and those that take none can be left out.
-/

namespace Shaderbox.Pattern

/-! ### Stretches of a text -/

/-- A number of steps of a relation, one after the other. -/
inductive Steps (step : Nat → Nat → Prop) : (count start stop : Nat) → Prop
  | none (place : Nat) : Steps step 0 place place
  | more {count start middle stop : Nat} :
      step start middle → Steps step count middle stop → Steps step (count + 1) start stop

/-- The character before a place of a text that stands behind another character. -/
def charBefore (before : Option Char) (text : List Char) : (place : Nat) → Option Char
  | 0 => before
  | place + 1 => text[place]?

/-- Whether a pattern describes the stretch of a text between two places. Bounds of a repetition
that are out of order leave the lower one. -/
def Describes (text : List Char) : Pattern → (start stop : Nat) → Prop
  | empty, start, stop => stop = start
  | char set, start, stop => stop = start + 1 ∧ ∃ c, text[start]? = some c ∧ set.contains c
  | assert assertion, start, stop =>
    stop = start ∧ assertion.holds (charBefore none text start) text[start]?
  | sequence first second, start, stop =>
    ∃ middle, first.Describes text start middle ∧ second.Describes text middle stop
  | choice left right, start, stop =>
    left.Describes text start stop ∨ right.Describes text start stop
  | repeated least most body, start, stop =>
    ∃ count, least ≤ count ∧ (∀ bound, most = some bound → count ≤ max least bound) ∧
      Steps (body.Describes text) count start stop

namespace Steps

variable {step : Nat → Nat → Prop} {count start stop : Nat}

theorem zero_iff : Steps step 0 start stop ↔ stop = start := by
  constructor
  · rintro ⟨⟩
    rfl
  · rintro rfl
    exact .none _

theorem succ_iff :
    Steps step (count + 1) start stop ↔
      ∃ middle, step start middle ∧ Steps step count middle stop := by
  constructor
  · rintro (_ | ⟨first, rest⟩)
    exact ⟨_, first, rest⟩
  · rintro ⟨middle, first, rest⟩
    exact .more first rest

/-- Steps one after the other are as many as both counts together. -/
theorem add_iff {other : Nat} :
    Steps step (count + other) start stop ↔
      ∃ middle, Steps step count start middle ∧ Steps step other middle stop := by
  induction count generalizing start with
  | zero => simp [zero_iff]
  | succ count ih =>
    simp only [Nat.succ_add, succ_iff, ih]
    constructor
    · rintro ⟨first, hfirst, middle, steps, others⟩
      exact ⟨middle, ⟨first, hfirst, steps⟩, others⟩
    · rintro ⟨middle, ⟨first, hfirst, steps⟩, others⟩
      exact ⟨first, hfirst, middle, steps, others⟩

/-- Steps that may also stay where they are come as far as at most so many that do not. -/
theorem stay_iff :
    Steps (fun start stop => stop = start ∨ step start stop) count start stop ↔
      ∃ fewer ≤ count, Steps step fewer start stop := by
  induction count generalizing start with
  | zero => simp [zero_iff]
  | succ count ih =>
    simp only [succ_iff, ih]
    constructor
    · rintro ⟨middle, rfl | first, fewer, hle, rest⟩
      · exact ⟨fewer, by omega, rest⟩
      · exact ⟨fewer + 1, by omega, .more first rest⟩
    · rintro ⟨fewer, hle, steps⟩
      cases steps with
      | none => exact ⟨_, .inl rfl, 0, by omega, .none _⟩
      | more first rest => exact ⟨_, .inr first, _, by omega, rest⟩

/-- Steps that never go back do not go back together. -/
theorem le (hstep : ∀ start stop, step start stop → start ≤ stop)
    (steps : Steps step count start stop) : start ≤ stop := by
  induction steps with
  | none => exact Nat.le_refl _
  | more first _ ih => exact Nat.le_trans (hstep _ _ first) ih

/-- Steps that do not leave a text do not leave it together. -/
theorem within {bound : Nat}
    (hstep : ∀ start stop, step start stop → start ≤ bound → stop ≤ bound)
    (steps : Steps step count start stop) (h : start ≤ bound) : stop ≤ bound := by
  induction steps with
  | none => exact h
  | more first _ ih => exact ih (hstep _ _ first h)

/-- Of steps that never go back, no more are needed than lie between the ends: one that stays where
it is can be left out. -/
theorem shorten (hstep : ∀ start stop, step start stop → start ≤ stop)
    (steps : Steps step count start stop) :
    ∃ fewer ≤ stop - start, Steps step fewer start stop := by
  induction steps with
  | none place => exact ⟨0, Nat.zero_le _, .none place⟩
  | @more _ start middle stop first rest ih =>
    obtain ⟨fewer, hle, short⟩ := ih
    have ahead : start ≤ middle := hstep _ _ first
    have behind : middle ≤ stop := rest.le hstep
    by_cases still : middle = start
    · subst still
      exact ⟨fewer, hle, short⟩
    · exact ⟨fewer + 1, by omega, .more first short⟩

end Steps

/-- A stretch does not run backwards. -/
theorem Describes.le {text : List Char} {pattern : Pattern} {start stop : Nat}
    (h : pattern.Describes text start stop) : start ≤ stop := by
  induction pattern generalizing start stop with
  | empty => exact Nat.le_of_eq (Eq.symm h)
  | char set => exact h.1 ▸ Nat.le_succ start
  | assert assertion => exact Nat.le_of_eq h.1.symm
  | sequence first second ihFirst ihSecond =>
    obtain ⟨middle, hfirst, hsecond⟩ := h
    exact Nat.le_trans (ihFirst hfirst) (ihSecond hsecond)
  | choice left right ihLeft ihRight => exact h.elim ihLeft ihRight
  | repeated least most body ih =>
    obtain ⟨count, _, _, steps⟩ := h
    exact steps.le fun _ _ => ih

/-- A stretch that begins in a text ends in it. -/
theorem Describes.within {text : List Char} {pattern : Pattern} {start stop : Nat}
    (h : pattern.Describes text start stop) (hstart : start ≤ text.length) :
    stop ≤ text.length := by
  induction pattern generalizing start stop with
  | empty => exact Eq.symm h ▸ hstart
  | char set =>
    obtain ⟨rfl, c, hc, _⟩ := h
    exact (List.getElem?_eq_some_iff.mp hc).1
  | assert assertion => exact h.1 ▸ hstart
  | sequence first second ihFirst ihSecond =>
    obtain ⟨middle, hfirst, hsecond⟩ := h
    exact ihSecond hsecond (ihFirst hfirst hstart)
  | choice left right ihLeft ihRight =>
    exact h.elim (fun h => ihLeft h hstart) fun h => ihRight h hstart
  | repeated least most body ih =>
    obtain ⟨count, _, _, steps⟩ := h
    exact steps.within (fun _ _ => ih) hstart

/-! ### Sets of places -/

/-- The characters around a place. -/
theorem getElem?_surroundingsFrom (before : Option Char) {text : List Char} {place : Nat}
    (h : place ≤ text.length) :
    (surroundingsFrom before text)[place]? = some (charBefore before text place, text[place]?) := by
  induction text generalizing before place with
  | nil =>
    obtain rfl : place = 0 := by simpa using h
    rfl
  | cons c rest ih =>
    cases place with
    | zero => rfl
    | succ place =>
      have := ih (some c) (Nat.le_of_succ_le_succ h)
      cases place <;> simpa [surroundingsFrom, charBefore] using this

namespace Places

/-- Whether a place belongs to a set of places. -/
def Has (places : Places) (place : Nat) : Prop := places[place]? = some true

theorem Has.lt {places : Places} {place : Nat} (h : places.Has place) : place < places.length :=
  (List.getElem?_eq_some_iff.mp h).1

theorem has_all {text : List Char} {place : Nat} :
    (all text).Has place ↔ place ≤ text.length := by
  constructor
  · intro h
    have := h.lt
    rw [length_all] at this
    omega
  · exact fun h => List.getElem?_replicate_of_lt (Nat.lt_succ_of_le h)

theorem has_union {left right : Places} (h : left.length = right.length) {place : Nat} :
    (left.union right).Has place ↔ left.Has place ∨ right.Has place := by
  simp only [Has, union, List.getElem?_zipWith_eq_some]
  constructor
  · rintro ⟨inLeft, inRight, hleft, hright, either⟩
    rcases Bool.or_eq_true_iff.mp either with rfl | rfl
    · exact .inl hleft
    · exact .inr hright
  · rintro (hleft | hright)
    · have hlt : place < right.length := h ▸ Has.lt hleft
      exact ⟨true, right[place], hleft, List.getElem?_eq_getElem hlt, by simp⟩
    · have hlt : place < left.length := h ▸ Has.lt hright
      exact ⟨left[place], true, List.getElem?_eq_getElem hlt, hright, by simp⟩

/-- Behind a character of a set stands the place after one with such a character. -/
theorem has_behind {set : CharSet} {text : List Char} {places : Places} {stop : Nat} :
    (places.behind set text).Has stop ↔
      ∃ start, places.Has start ∧ stop = start + 1 ∧
        ∃ c, text[start]? = some c ∧ set.contains c = true := by
  cases stop with
  | zero => simp [behind, Has]
  | succ stop =>
    simp only [behind, Has, List.getElem?_cons_succ, List.getElem?_zipWith_eq_some]
    constructor
    · rintro ⟨belongs, c, hplace, hc, both⟩
      obtain ⟨rfl, hset⟩ := Bool.and_eq_true_iff.mp both
      exact ⟨stop, hplace, rfl, c, hc, hset⟩
    · rintro ⟨start, hplace, hstop, c, hc, hset⟩
      obtain rfl := Nat.succ.inj hstop
      exact ⟨true, c, hplace, hc, hset⟩

/-- An assertion holds at a place just by what stands around it. -/
theorem has_holding {assertion : Assertion} {text : List Char} {places : Places}
    (h : places.length = text.length + 1) {stop : Nat} :
    (places.holding assertion text).Has stop ↔
      ∃ start, places.Has start ∧ stop = start ∧
        assertion.holds (charBefore none text start) text[start]? = true := by
  simp only [holding, Has, List.getElem?_zipWith_eq_some]
  constructor
  · rintro ⟨belongs, around, hplace, haround, both⟩
    obtain ⟨rfl, hholds⟩ := Bool.and_eq_true_iff.mp both
    have hstop : stop ≤ text.length := by
      have := Has.lt hplace
      omega
    obtain rfl := Option.some.inj ((getElem?_surroundingsFrom none hstop).symm.trans haround)
    exact ⟨stop, hplace, rfl, hholds⟩
  · rintro ⟨start, hplace, rfl, hholds⟩
    have hstop : stop ≤ text.length := by
      have := Has.lt hplace
      omega
    exact ⟨true, _, hplace, getElem?_surroundingsFrom none hstop, hholds⟩

/-- A step on the sets of places of a text that leads along a relation between places. -/
structure Follows (count : Nat) (step : Places → Places) (relation : Nat → Nat → Prop) : Prop where
  length : ∀ {places : Places}, places.length = count → (step places).length = count
  has : ∀ {places : Places}, places.length = count → ∀ stop,
    (step places).Has stop ↔ ∃ start, places.Has start ∧ relation start stop

namespace Follows

variable {count : Nat} {step other : Places → Places} {relation after : Nat → Nat → Prop}

/-- Two steps lead along two relations. -/
theorem comp (hstep : Follows count step relation) (hother : Follows count other after) :
    Follows count (fun places => other (step places))
      (fun start stop => ∃ middle, relation start middle ∧ after middle stop) where
  length h := hother.length (hstep.length h)
  has h stop := by
    simp only [hother.has (hstep.length h), hstep.has h]
    constructor
    · rintro ⟨middle, ⟨start, hstart, first⟩, second⟩
      exact ⟨start, hstart, middle, first, second⟩
    · rintro ⟨start, hstart, middle, first, second⟩
      exact ⟨middle, ⟨start, hstart, first⟩, second⟩

/-- The places of two steps together are those of either relation. -/
theorem union (hstep : Follows count step relation) (hother : Follows count other after) :
    Follows count (fun places => (step places).union (other places))
      (fun start stop => relation start stop ∨ after start stop) where
  length h := by simp [Places.union, hstep.length h, hother.length h]
  has h stop := by
    rw [has_union ((hstep.length h).trans (hother.length h).symm), hstep.has h, hother.has h,
      ← exists_or]
    simp only [← and_or_left]

/-- Staying leads nowhere else. -/
theorem stay : Follows count id (fun start stop => stop = start) where
  length h := h
  has h stop := by simp

/-- A relation between places of the text is all that matters. -/
theorem congr (hstep : Follows count step relation)
    (h : ∀ start, start < count → ∀ stop, relation start stop ↔ after start stop) :
    Follows count step after where
  length := hstep.length
  has hlength stop := by
    rw [hstep.has hlength]
    refine exists_congr fun start => and_congr_right fun hstart => h start ?_ stop
    exact hlength ▸ hstart.lt

/-- A step taken over and over. -/
theorem iterate (hstep : Follows count step relation) (times : Nat) :
    Follows count step^[times] (Steps relation times) := by
  induction times with
  | zero => exact stay.congr fun _ _ _ => Steps.zero_iff.symm
  | succ times ih => exact (hstep.comp ih).congr fun _ _ _ => Steps.succ_iff.symm

end Follows

/-- Stopping where a step changes nothing makes no difference. -/
theorem exactly_eq_iterate (step : Places → Places) (times : Nat) (places : Places) :
    exactly step times places = step^[times] places := by
  induction times generalizing places with
  | zero => rfl
  | succ times ih =>
    simp only [exactly]
    split
    · next fixed => exact (Function.iterate_fixed fixed _).symm
    · exact ih (step places)

/-- Going on from all places so far is a step of its own. -/
theorem within_eq_exactly (step : Places → Places) (times : Nat) (places : Places) :
    within step times places = exactly (fun places => places.union (step places)) times places := by
  induction times generalizing places with
  | zero => rfl
  | succ times ih => simp only [within, exactly, ih]

variable {count : Nat} {step : Places → Places} {relation : Nat → Nat → Prop}

theorem follows_exactly (hstep : Follows count step relation) (times : Nat) :
    Follows count (exactly step times) (Steps relation times) := by
  rw [funext (exactly_eq_iterate step times)]
  exact hstep.iterate times

theorem follows_within (hstep : Follows count step relation) (times : Nat) :
    Follows count (within step times)
      (fun start stop => ∃ fewer ≤ times, Steps relation fewer start stop) := by
  rw [funext (within_eq_exactly step times)]
  refine (follows_exactly (Follows.stay.union hstep) times).congr fun start _ stop => ?_
  exact Steps.stay_iff

end Places

/-! ### Matching -/

/-- The rounds of a repetition: as many as must be, and then others as far as they may. -/
theorem describes_repeated_iff {text : List Char} {least : Nat} {most : Option Nat}
    {body : Pattern} {start stop : Nat} (hstart : start ≤ text.length) :
    (repeated least most body).Describes text start stop ↔
      ∃ middle, Steps (body.Describes text) least start middle ∧
        ∃ further ≤ (most.map (· - least)).getD (text.length + 1),
          Steps (body.Describes text) further middle stop := by
  constructor
  · rintro ⟨count, hleast, hmost, steps⟩
    obtain ⟨further, rfl⟩ := Nat.exists_eq_add_of_le hleast
    obtain ⟨middle, first, rest⟩ := Steps.add_iff.mp steps
    refine ⟨middle, first, ?_⟩
    cases most with
    | some bound =>
      have := hmost bound rfl
      exact ⟨further, by simp only [Option.map_some, Option.getD_some]; omega, rest⟩
    | none =>
      obtain ⟨fewer, hfewer, short⟩ := rest.shorten fun _ _ => Describes.le
      have hmiddle := first.within (fun _ _ => Describes.within) hstart
      have hstop := rest.within (fun _ _ => Describes.within) hmiddle
      exact ⟨fewer, by simp only [Option.map_none, Option.getD_none]; omega, short⟩
  · rintro ⟨middle, first, further, hfurther, rest⟩
    refine ⟨least + further, Nat.le_add_right .., ?_, Steps.add_iff.mpr ⟨middle, first, rest⟩⟩
    rintro bound rfl
    simp only [Option.map_some, Option.getD_some] at hfurther
    omega

/-- A pattern leads from place to place along the stretches that it describes. -/
theorem follows_lead (text : List Char) (pattern : Pattern) :
    Places.Follows (text.length + 1) (pattern.lead text) (pattern.Describes text) := by
  induction pattern with
  | empty => exact Places.Follows.stay
  | char set => exact ⟨fun h => by simp [lead, Places.behind, h], fun _ _ => Places.has_behind⟩
  | assert assertion =>
    exact ⟨fun h => by simp [lead, Places.holding, h],
      fun h _ => Places.has_holding h⟩
  | sequence first second ihFirst ihSecond => exact ihFirst.comp ihSecond
  | choice left right ihLeft ihRight => exact ihLeft.union ihRight
  | repeated least most body ih =>
    have steps := (Places.follows_exactly ih least).comp (Places.follows_within ih
      ((most.map (· - least)).getD (text.length + 1)))
    exact steps.congr fun start hstart stop =>
      (describes_repeated_iff (Nat.lt_succ_iff.mp hstart)).symm

/-- A pattern occurs in a text where it describes some stretch of it. -/
theorem occurs_iff {pattern : Pattern} {text : List Char} :
    pattern.occurs text = true ↔
      ∃ start stop, start ≤ text.length ∧ pattern.Describes text start stop := by
  have reached := (follows_lead text pattern).has (Places.length_all text)
  have somewhere : pattern.occurs text = true ↔
      ∃ stop, (pattern.lead text (Places.all text)).Has stop := by
    simp [occurs, List.mem_iff_getElem?, Places.Has]
  simp only [somewhere, reached, Places.has_all]
  exact exists_comm

end Shaderbox.Pattern
