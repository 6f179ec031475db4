/-!
# Signed words

Counts and sizes reach the graphics device as signed words of 32 bits.
-/

namespace Shaderbox.Number

/-- The greatest signed word. -/
def wordMax : Int := 2147483647

/-- The least signed word. -/
def wordMin : Int := -2147483648

/-- The signed word with the same bits as a count. -/
def signedWord (count : Nat) : Int := (count : Int).bmod 4294967296

/-- A count that is a signed word stays as it is. -/
theorem signedWord_of_le {count : Nat} (h : (count : Int) ≤ wordMax) :
    signedWord count = count := by
  unfold signedWord wordMax at *
  rw [Int.bmod_def]
  omega

/-- A count of 32 bits that is above all signed words wraps to a negative one. -/
theorem signedWord_of_gt {count : Nat} (h : wordMax < count) (hbits : count < 4294967296) :
    signedWord count = count - 4294967296 := by
  unfold signedWord wordMax at *
  rw [Int.bmod_def]
  omega

end Shaderbox.Number
