/-!
# Sets of characters

Sets are built from ranges by union, intersection and complement, and membership follows the
construction.
-/

namespace Shaderbox.Pattern

/-- A set of characters. -/
inductive CharSet where
  | none
  /-- All characters from one to another, both included. -/
  | range (first last : Char)
  | union (left right : CharSet)
  | intersection (left right : CharSet)
  | complement (set : CharSet)
  /-- The characters that are in a set in capitals or in small letters. -/
  | anyCase (set : CharSet)
deriving DecidableEq, Repr

namespace CharSet

/-- Whether a character belongs to a set. -/
def contains : CharSet → Char → Bool
  | none, _ => false
  | range first last, c => first ≤ c && c ≤ last
  | union left right, c => left.contains c || right.contains c
  | intersection left right, c => left.contains c && right.contains c
  | complement set, c => !set.contains c
  | anyCase set, c => set.contains c || set.contains c.toLower || set.contains c.toUpper

/-- Every character. -/
def all : CharSet := complement none

/-- One character alone. -/
def single (c : Char) : CharSet := range c c

/-- The union of ranges. -/
def ofRanges : List (Char × Char) → CharSet
  | [] => none
  | (first, last) :: rest => union (range first last) (ofRanges rest)

/-- The union of single characters. -/
def ofList (members : List Char) : CharSet :=
  ofRanges (members.map fun c => (c, c))

/-- What is in one set and not in another. -/
def difference (left right : CharSet) : CharSet :=
  intersection left (complement right)

/-- What is in just one of two sets. -/
def symmetricDifference (left right : CharSet) : CharSet :=
  union (left.difference right) (right.difference left)

/-- The set, or all that is not in it. -/
def negatedIf (negated : Bool) (set : CharSet) : CharSet :=
  if negated then complement set else set

@[simp] theorem contains_single (a c : Char) : (single a).contains c = (c == a) := by
  simp only [single, contains]
  rw [Bool.eq_iff_iff]
  simp only [Bool.and_eq_true, decide_eq_true_eq, beq_iff_eq]
  constructor
  · exact fun ⟨low, high⟩ => Char.le_antisymm high low
  · exact fun h => h ▸ ⟨Char.le_refl _, Char.le_refl _⟩

/-- How many ranges a set is built from. -/
def rangeCount : CharSet → Nat
  | none => 0
  | range .. => 1
  | union left right => left.rangeCount + right.rangeCount
  | intersection left right => left.rangeCount + right.rangeCount
  | complement set => set.rangeCount + 1
  | anyCase set => 2 * set.rangeCount

/-- Whether the construction shows that all members are ASCII. -/
def isASCII : CharSet → Bool
  | none => true
  | range _ last => last.toNat < 0x80
  | union left right => left.isASCII && right.isASCII
  | intersection left right => left.isASCII || right.isASCII
  | complement _ => false
  | anyCase set => set.isASCII

end CharSet

end Shaderbox.Pattern
