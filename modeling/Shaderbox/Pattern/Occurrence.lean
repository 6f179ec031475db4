import Shaderbox.Pattern.Basic

/-!
# Occurrences of patterns

A text of `n` characters has `n + 1` places, before, between and behind its characters. A pattern
leads from places to places: to those at which a text of the pattern can end that begins at one of
the former. A pattern occurs in a text if it leads anywhere from all places together.

A repetition goes on while it reaches new places, and at most as often as there are places.
-/

namespace Shaderbox.Pattern

/-- A set of places of a text: for each place, from the first to the last, whether it belongs. -/
abbrev Places := List Bool

/-- The characters before and after each place of a text, whose first place stands behind
`before`. -/
def surroundingsFrom (before : Option Char) : List Char → List (Option Char × Option Char)
  | [] => [(before, none)]
  | c :: rest => (before, some c) :: surroundingsFrom (some c) rest

/-- The characters before and after each place of a text. -/
def surroundings (text : List Char) : List (Option Char × Option Char) :=
  surroundingsFrom none text

namespace Places

/-- Every place of a text. -/
def all (text : List Char) : Places :=
  List.replicate (text.length + 1) true

/-- The places that belong to either of two sets. -/
def union (left right : Places) : Places :=
  left.zipWith (· || ·) right

/-- The places behind a character of a set that stands behind one of some places. -/
def behind (set : CharSet) (text : List Char) (places : Places) : Places :=
  false :: places.zipWith (fun belongs c => belongs && set.contains c) text

/-- Those of some places for which an assertion holds. -/
def holding (assertion : Assertion) (text : List Char) (places : Places) : Places :=
  places.zipWith (fun belongs around => belongs && assertion.holds around.1 around.2)
    (surroundings text)

/-- Take a step a number of times, or until it changes nothing. -/
def exactly (step : Places → Places) : Nat → Places → Places
  | 0, places => places
  | times + 1, places =>
    let next := step places
    if next = places then places else exactly step times next

/-- All places that at most a number of steps lead to. -/
def within (step : Places → Places) : Nat → Places → Places
  | 0, places => places
  | times + 1, places =>
    let next := places.union (step places)
    if next = places then places else within step times next

end Places

/-- The places of a text that a pattern leads to. -/
def lead (text : List Char) : Pattern → Places → Places
  | empty, places => places
  | char set, places => places.behind set text
  | assert assertion, places => places.holding assertion text
  | sequence first second, places => second.lead text (first.lead text places)
  | choice left right, places => (left.lead text places).union (right.lead text places)
  | repeated least most body, places =>
    Places.within (body.lead text) ((most.map (· - least)).getD (text.length + 1))
      (Places.exactly (body.lead text) least places)

/-- Whether some part of a text is one of the texts that a pattern describes. -/
def occurs (pattern : Pattern) (text : List Char) : Bool :=
  (pattern.lead text (Places.all text)).any id

/-! ### Sizes -/

@[simp] theorem length_surroundingsFrom (before : Option Char) (text : List Char) :
    (surroundingsFrom before text).length = text.length + 1 := by
  induction text generalizing before with
  | nil => rfl
  | cons c rest ih => simp [surroundingsFrom, ih]

@[simp] theorem length_surroundings (text : List Char) :
    (surroundings text).length = text.length + 1 :=
  length_surroundingsFrom none text

@[simp] theorem Places.length_all (text : List Char) : (all text).length = text.length + 1 :=
  List.length_replicate

end Shaderbox.Pattern
