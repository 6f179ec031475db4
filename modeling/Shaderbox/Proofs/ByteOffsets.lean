import Shaderbox.Proofs.OctetReading
import Shaderbox.Proofs.SourceCuts

/-!
# Offsets into a text

Positions in a text can be counted in bytes. An offset is then a boundary if some beginning of the
text ends there, and only between boundaries can pieces be cut out. Here every operation on offsets
is checked: a sum has to stay within a limit, a difference must not fall below zero, a byte that is
read must be there, and a piece must begin and end at boundaries.

When each of them succeeds, and with what, is said in terms of the pieces that a text is put
together from.
-/

namespace Shaderbox

/-- What can go wrong in a computation with offsets. -/
inductive OffsetFault where
  /-- A sum left its range. -/
  | sum
  /-- A difference fell below zero. -/
  | difference
  /-- A byte was read behind the last one. -/
  | index
  /-- A piece was cut out that does not begin and end at boundaries, in this order. -/
  | slice
  /-- A loop came no further. -/
  | stuck
deriving DecidableEq

section Results

variable {α β : Type}

/-- A result is handed on. -/
@[simp] theorem ok_bind (result : α) (next : α → Except OffsetFault β) :
    (Except.ok result >>= next) = next result := rfl

/-- A fault ends a computation. -/
@[simp] theorem error_bind (fault : OffsetFault) (next : α → Except OffsetFault β) :
    (Except.error fault >>= next) = .error fault := rfl

end Results

namespace Text

section Operations

/-- A sum that has to stay within a limit. -/
def checkedSum (limit a b : Nat) : Except OffsetFault Nat :=
  if a + b ≤ limit then .ok (a + b) else .error .sum

/-- A difference that must not fall below zero. -/
def checkedDifference (a b : Nat) : Except OffsetFault Nat :=
  if b ≤ a then .ok (a - b) else .error .difference

/-- Whether a beginning of a text ends at an offset. -/
def IsBoundary (offset : Nat) (text : List Char) : Prop :=
  extent (prefixWithin offset text) = offset
deriving Decidable

/-- The byte of a text at an offset. -/
def octetAt (text : List Char) (offset : Nat) : Except OffsetFault UInt8 :=
  match (text.flatMap String.utf8EncodeChar)[offset]? with
  | some octet => .ok octet
  | none => .error .index

/-- The part of a text in front of an offset. -/
def sliceTo (stop : Nat) (text : List Char) : Except OffsetFault (List Char) :=
  if IsBoundary stop text then .ok (prefixWithin stop text) else .error .slice

/-- The part of a text from an offset on. -/
def sliceFrom (start : Nat) (text : List Char) : Except OffsetFault (List Char) :=
  if IsBoundary start text then .ok (text.drop (fitting start text)) else .error .slice

/-- The part of a text between two offsets. -/
def slice (start stop : Nat) (text : List Char) : Except OffsetFault (List Char) := do
  let back ← sliceFrom start text
  if start ≤ stop then sliceTo (stop - start) back else .error .slice

/-- The offset at which a part first occurs in a text. -/
def offsetOf? (part : List Char) : List Char → Option Nat
  | [] => if part.isEmpty then some 0 else none
  | c :: rest =>
    if part.isPrefixOf (c :: rest) then some 0 else (offsetOf? part rest).map (c.utf8Size + ·)

/-- The last boundary of a text up to an offset, found by counting down. -/
def boundaryUpTo (text : List Char) : (offset : Nat) → Except OffsetFault Nat
  | 0 => if IsBoundary 0 text then .ok 0 else .error .difference
  | offset + 1 =>
    if IsBoundary (offset + 1) text then .ok (offset + 1) else boundaryUpTo text offset

/-- The last boundary of a text up to an offset that may lie behind it. -/
def floorBoundary (text : List Char) (offset : Nat) : Except OffsetFault Nat :=
  if extent text ≤ offset then .ok (extent text) else boundaryUpTo text offset

end Operations

/-- A sum within the limit is what it is. -/
theorem checkedSum_of_le {limit a b : Nat} (h : a + b ≤ limit) :
    checkedSum limit a b = .ok (a + b) := if_pos h

/-- No character takes less than a byte. -/
theorem length_le_extent (text : List Char) : text.length ≤ extent text := by
  induction text with
  | nil => exact le_refl 0
  | cons c rest ih =>
    have hpositive := c.utf8Size_pos
    rw [List.length_cons, extent_cons]
    omega

/-- What is kept of a text is one of its beginnings. -/
theorem prefixWithin_begins (limit : Nat) (text : List Char) : prefixWithin limit text <+: text :=
  List.take_prefix _ _

section Pieces

variable {text front back piece : List Char} {start stop : Nat}

theorem isBoundary_iff : IsBoundary stop text ↔ ∃ front, front <+: text ∧ extent front = stop := by
  constructor
  · intro h
    exact ⟨prefixWithin stop text, prefixWithin_begins stop text, h⟩
  · rintro ⟨front, hbegins, rfl⟩
    have hkept := extent_le_of_prefix (prefix_prefixWithin hbegins (le_refl _))
    exact le_antisymm (extent_prefixWithin_le _ _) hkept

/-- What is kept of a text up to the end of one of its beginnings is that beginning. -/
theorem prefixWithin_extent (h : front <+: text) : prefixWithin (extent front) text = front :=
  (eq_of_prefix_of_extent_le (prefix_prefixWithin h (le_refl _)) (extent_prefixWithin_le _ _)).symm

theorem sliceTo_eq_ok_iff :
    sliceTo stop text = .ok front ↔ front <+: text ∧ extent front = stop := by
  unfold sliceTo
  constructor
  · intro h
    split at h
    · rename_i hboundary
      obtain rfl := Except.ok.inj h
      exact ⟨prefixWithin_begins stop text, hboundary⟩
    · contradiction
  · rintro ⟨hbegins, rfl⟩
    rw [if_pos (isBoundary_iff.mpr ⟨front, hbegins, rfl⟩), prefixWithin_extent hbegins]

theorem sliceFrom_eq_ok_iff :
    sliceFrom start text = .ok back ↔ ∃ front, front ++ back = text ∧ extent front = start := by
  unfold sliceFrom
  constructor
  · intro h
    split at h
    · rename_i hboundary
      obtain rfl := Except.ok.inj h
      exact ⟨prefixWithin start text, List.take_append_drop _ _, hboundary⟩
    · contradiction
  · rintro ⟨front, rfl, rfl⟩
    have hfront := prefixWithin_extent (List.prefix_append front back)
    have hback : front ++ (front ++ back).drop (fitting (extent front) (front ++ back)) =
        front ++ back := by
      nth_rewrite 1 [← hfront]
      exact List.take_append_drop _ _
    rw [if_pos (isBoundary_iff.mpr ⟨front, List.prefix_append _ _, rfl⟩),
      List.append_cancel_left hback]

theorem slice_eq_ok_iff :
    slice start stop text = .ok piece ↔
      ∃ front back, front ++ (piece ++ back) = text ∧ extent front = start ∧
        start + extent piece = stop := by
  unfold slice
  constructor
  · intro h
    cases hback : sliceFrom start text with
    | error fault =>
      rw [hback] at h
      contradiction
    | ok rest =>
      rw [hback] at h
      obtain ⟨front, rfl, rfl⟩ := sliceFrom_eq_ok_iff.mp hback
      change (if _ then _ else _) = _ at h
      split at h
      · obtain ⟨⟨back, rfl⟩, hsize⟩ := sliceTo_eq_ok_iff.mp h
        exact ⟨front, back, rfl, rfl, by omega⟩
      · contradiction
  · rintro ⟨front, back, rfl, rfl, rfl⟩
    rw [sliceFrom_eq_ok_iff.mpr ⟨front, rfl, rfl⟩]
    change (if _ then _ else _) = _
    rw [if_pos (Nat.le_add_right _ _)]
    exact sliceTo_eq_ok_iff.mpr ⟨List.prefix_append _ _, (Nat.add_sub_cancel_left _ _).symm⟩

end Pieces

section Feeds

theorem feed_not_mem_continuation (value due : Nat) : 10 ∉ continuation value due := by
  induction due with
  | zero => exact List.not_mem_nil
  | succ due ih =>
    refine List.not_mem_cons_of_ne_of_not_mem (fun hfeed => ?_) ih
    have hsmall : value / 64 ^ due % 64 + 0x80 < 256 := by omega
    have hvalue := congrArg UInt8.toNat hfeed
    rw [UInt8.toNat_ofNat_of_lt' hsmall] at hvalue
    simp only [UInt8.reduceToNat] at hvalue
    omega

/-- The octet of a line feed occurs in no other character. -/
theorem feed_mem_utf8EncodeChar {c : Char} : 10 ∈ String.utf8EncodeChar c ↔ c = '\n' := by
  constructor
  · intro h
    have hfeed : Decoder.lead [] 10 = ⟨['\n'], none⟩ := rfl
    rcases Decoder.exists_lead [] c with
      ⟨octet, hencode, hlead⟩ | ⟨octet, due, pending, hencode, hlead, -⟩
    · rw [hencode, List.mem_singleton] at h
      rw [← h, hfeed] at hlead
      injection hlead with hseen
      injection hseen with hc
      exact hc.symm
    · rw [hencode] at h
      rcases List.mem_cons.mp h with rfl | hcontinues
      · rw [hfeed] at hlead
        injection hlead with hseen
        contradiction
      · exact absurd hcontinues (feed_not_mem_continuation _ _)
  · rintro rfl
    decide

theorem count_flatMap_utf8EncodeChar (text : List Char) :
    (text.flatMap String.utf8EncodeChar).count 10 = text.count '\n' := by
  induction text with
  | nil => rfl
  | cons c rest ih =>
    rw [List.flatMap_cons, List.count_append, ih, List.count_cons, Nat.add_comm]
    by_cases hc : c = '\n'
    · subst hc
      rfl
    · rw [List.count_eq_zero.mpr fun h => hc (feed_mem_utf8EncodeChar.mp h), if_neg (by simpa)]

/-- The octet in front of a boundary tells whether the character in front of it is a line feed. -/
theorem octetAt_before (front : List Char) (c : Char) (back : List Char) :
    ∃ octet, octetAt (front ++ c :: back) (extent front + c.utf8Size - 1) = .ok octet ∧
      (octet = 10 ↔ c = '\n') := by
  have hpositive := c.utf8Size_pos
  have hinside : c.utf8Size - 1 < (String.utf8EncodeChar c).length := by
    rw [String.length_utf8EncodeChar]
    omega
  have hoctet : ((front ++ c :: back).flatMap String.utf8EncodeChar)[
      extent front + c.utf8Size - 1]? = some (String.utf8EncodeChar c)[c.utf8Size - 1] := by
    rw [Nat.add_sub_assoc hpositive, List.flatMap_append, List.flatMap_cons,
      ← length_flatMap_utf8EncodeChar, List.getElem?_append_right (Nat.le_add_right _ _),
      Nat.add_sub_cancel_left, List.getElem?_append_left hinside, List.getElem?_eq_getElem hinside]
  refine ⟨(String.utf8EncodeChar c)[c.utf8Size - 1], ?_, ?_⟩
  · rw [octetAt, hoctet]
  · constructor
    · intro h
      exact feed_mem_utf8EncodeChar.mp (h ▸ List.getElem_mem hinside)
    · rintro rfl
      rfl

end Feeds

/-- A character is found where the characters before it end. -/
theorem offsetOf?_singleton (c : Char) (text : List Char) :
    offsetOf? [c] text = if c ∈ text then some (extent (text.takeWhile (· ≠ c))) else none := by
  induction text with
  | nil => rfl
  | cons d rest ih =>
    rw [offsetOf?, ih]
    by_cases hd : d = c
    · simp [hd]
    · have hother : [c].isPrefixOf (d :: rest) = false := by
        simp [List.isPrefixOf, Ne.symm hd]
      have htake : (d :: rest).takeWhile (· ≠ c) = d :: rest.takeWhile (· ≠ c) := by
        simp [hd]
      rw [hother, htake]
      by_cases hc : c ∈ rest
      · simp [hc]
      · simp [hc, Ne.symm hd]

/-- Counting down from an offset ends at the longest beginning of the text up to there. -/
theorem boundaryUpTo_eq (text : List Char) (offset : Nat) :
    boundaryUpTo text offset = .ok (extent (prefixWithin offset text)) := by
  induction offset with
  | zero =>
    have hnone : extent (prefixWithin 0 text) = 0 := Nat.le_zero.mp (extent_prefixWithin_le 0 text)
    rw [boundaryUpTo, if_pos (show IsBoundary 0 text from hnone), hnone]
  | succ offset ih =>
    rw [boundaryUpTo]
    split
    · rename_i hboundary
      rw [show extent (prefixWithin (offset + 1) text) = offset + 1 from hboundary]
    · rename_i hinside
      have hbelow : extent (prefixWithin (offset + 1) text) ≤ offset :=
        Nat.le_of_lt_succ (Nat.lt_of_le_of_ne (extent_prefixWithin_le _ _) hinside)
      have hless := extent_le_of_prefix (prefix_prefixWithin (prefixWithin_begins offset text)
        ((extent_prefixWithin_le offset text).trans (Nat.le_succ offset)))
      have hmore := extent_le_of_prefix
        (prefix_prefixWithin (prefixWithin_begins (offset + 1) text) hbelow)
      rw [ih, le_antisymm hless hmore]

theorem floorBoundary_eq (text : List Char) (offset : Nat) :
    floorBoundary text offset = .ok (extent (prefixWithin offset text)) := by
  unfold floorBoundary
  split
  · rename_i hfits
    rw [prefixWithin_of_extent_le hfits]
  · exact boundaryUpTo_eq text offset

end Text

end Shaderbox
