/-!
# The extent of a text in bytes, and cuts that respect it

Sizes of shader sources are counted in bytes of UTF-8, but a cut never falls inside a
character. `fitting limit` counts the leading characters whose encodings fit into `limit`
bytes together, and `prefixWithin` keeps exactly those.
-/

namespace Shaderbox.Text

/-- The bytes that the UTF-8 encodings of the characters take together. -/
def extent : List Char → Nat
  | [] => 0
  | c :: rest => c.utf8Size + extent rest

/-- Extend `count` by the number of leading characters that fit into `limit` bytes. -/
def fittingFrom (count : Nat) : (limit : Nat) → List Char → Nat
  | _, [] => count
  | limit, c :: rest =>
    if c.utf8Size ≤ limit then fittingFrom (count + 1) (limit - c.utf8Size) rest else count

/-- The number of leading characters that fit into `limit` bytes. -/
def fitting (limit : Nat) (text : List Char) : Nat :=
  fittingFrom 0 limit text

/-- The longest run of leading characters that fits into `limit` bytes. -/
def prefixWithin (limit : Nat) (text : List Char) : List Char :=
  text.take (fitting limit text)

@[simp] theorem extent_nil : extent [] = 0 := rfl

@[simp] theorem extent_cons (c : Char) (rest : List Char) :
    extent (c :: rest) = c.utf8Size + extent rest := rfl

@[simp] theorem extent_append (front back : List Char) :
    extent (front ++ back) = extent front + extent back := by
  induction front with
  | nil => simp
  | cons c rest ih => simp [ih, Nat.add_assoc]

/-- The extent is the size of the text as a string. -/
theorem utf8ByteSize_ofList (text : List Char) :
    (String.ofList text).utf8ByteSize = extent text := by
  induction text with
  | nil => rfl
  | cons c rest ih =>
    have split : String.ofList (c :: rest) = String.singleton c ++ String.ofList rest := by
      rw [String.singleton_eq_ofList, ← String.ofList_append]
      rfl
    rw [split, String.utf8ByteSize_append, ih, String.utf8ByteSize_singleton, extent_cons]

/-- The running count only shifts the result. -/
theorem fittingFrom_eq (count limit : Nat) (text : List Char) :
    fittingFrom count limit text = count + fittingFrom 0 limit text := by
  induction text generalizing count limit with
  | nil => rfl
  | cons c rest ih =>
    by_cases h : c.utf8Size ≤ limit
    · rw [fittingFrom, if_pos h, ih, fittingFrom, if_pos h, ih 1]
      omega
    · rw [fittingFrom, if_neg h, fittingFrom, if_neg h]
      rfl

/-- A character that fits is kept, and the rest gets what it leaves. -/
theorem prefixWithin_cons (limit : Nat) (c : Char) (rest : List Char) :
    prefixWithin limit (c :: rest) =
      if c.utf8Size ≤ limit then c :: prefixWithin (limit - c.utf8Size) rest else [] := by
  by_cases h : c.utf8Size ≤ limit
  · rw [prefixWithin, fitting, fittingFrom, if_pos h, if_pos h, fittingFrom_eq,
      Nat.zero_add, Nat.add_comm 1, List.take_succ_cons]
    rfl
  · rw [prefixWithin, fitting, fittingFrom, if_neg h, if_neg h]
    rfl

@[simp] theorem prefixWithin_nil (limit : Nat) : prefixWithin limit [] = [] := by
  simp [prefixWithin]

/-- The kept part fits. -/
theorem extent_prefixWithin_le (limit : Nat) (text : List Char) :
    extent (prefixWithin limit text) ≤ limit := by
  induction text generalizing limit with
  | nil => simp
  | cons c rest ih =>
    rw [prefixWithin_cons]
    split
    · have := ih (limit - c.utf8Size)
      simp only [extent_cons]
      omega
    · simp

/-- A text that fits is kept whole. -/
theorem prefixWithin_of_extent_le {limit : Nat} {text : List Char} (h : extent text ≤ limit) :
    prefixWithin limit text = text := by
  induction text generalizing limit with
  | nil => simp
  | cons c rest ih =>
    simp only [extent_cons] at h
    rw [prefixWithin_cons, if_pos (by omega), ih (by omega)]

end Shaderbox.Text
