import Shaderbox.Text.Decoding
import Shaderbox.Text.Extent
import Mathlib.Algebra.Group.Nat.Defs
import Mathlib.Data.List.Infix

/-!
# Reading UTF-8 octet by octet

The encoding of a character is a lead octet and the continuation octets that it announces, each of
them six bits of the character's value. The machine that reads damaged bytes keeps the bits read so
far: after the lead and some of the continuations its value is the character's value without the
bits that are still due. So whole characters are read as they stand, and a character that was cut
off is still pending at the end and comes to one replacement character.
-/

namespace Shaderbox.Text

/-- The continuation octets of a value, given how many of them there are. -/
def continuation (value : Nat) : (due : Nat) → List UInt8
  | 0 => []
  | due + 1 => UInt8.ofNat (value / 64 ^ due % 64 + 0x80) :: continuation value due

@[simp] theorem length_continuation (value due : Nat) :
    (continuation value due).length = due := by
  induction due with
  | zero => rfl
  | succ due ih => simp [continuation, ih]

namespace Decoder

/-- The first octet of a character, told by its value and by the continuations it announces. -/
theorem lead_ofNat {n : Nat} (h : n < 256) (seen : List Char) :
    lead seen (UInt8.ofNat n) =
      if n < 0x80 then ⟨Char.ofNat n :: seen, none⟩
      else if 0xC2 ≤ n ∧ n ≤ 0xDF then ⟨seen, some ⟨1, n - 0xC0, 0x80, 0xBF⟩⟩
      else if n = 0xE0 then ⟨seen, some ⟨2, 0, 0xA0, 0xBF⟩⟩
      else if n = 0xED then ⟨seen, some ⟨2, 0xD, 0x80, 0x9F⟩⟩
      else if 0xE1 ≤ n ∧ n ≤ 0xEF then ⟨seen, some ⟨2, n - 0xE0, 0x80, 0xBF⟩⟩
      else if n = 0xF0 then ⟨seen, some ⟨3, 0, 0x90, 0xBF⟩⟩
      else if n = 0xF4 then ⟨seen, some ⟨3, 4, 0x80, 0x8F⟩⟩
      else if 0xF1 ≤ n ∧ n ≤ 0xF3 then ⟨seen, some ⟨3, n - 0xF0, 0x80, 0xBF⟩⟩
      else ⟨replacement :: seen, none⟩ := by
  have hvalue : (UInt8.ofNat n).toNat = n := UInt8.toNat_ofNat_of_lt' h
  simp only [lead, UInt8.lt_iff_toNat_lt, UInt8.le_iff_toNat_le, ← UInt8.toNat_inj, hvalue,
    UInt8.reduceToNat]

/-- Whether the machine has read the lead octet of a character whose given number of continuation
octets are due: it holds the value without their bits, and the next of them is within its bounds. -/
def Awaits (pending : Pending) (value due : Nat) : Prop :=
  pending.due = due + 1 ∧ pending.value = value / 64 ^ (due + 1) ∧
    pending.low.toNat ≤ value / 64 ^ due % 64 + 0x80 ∧
    value / 64 ^ due % 64 + 0x80 ≤ pending.high.toNat

section Leads

variable {value : Nat} (seen : List Char)

theorem awaits_two (hlow : 0x80 ≤ value) (hhigh : value < 0x800) :
    ∃ pending, lead seen (UInt8.ofNat (value / 64 % 0x20 + 0xC0)) = ⟨seen, some pending⟩ ∧
      Awaits pending value 0 := by
  refine ⟨⟨1, value / 64 % 0x20 + 0xC0 - 0xC0, 0x80, 0xBF⟩, ?_, rfl, ?_⟩
  · rw [lead_ofNat (by omega), if_neg (by omega), if_pos (by omega)]
  · simp only [Nat.reducePow, Nat.reduceAdd, UInt8.reduceToNat]
    omega

/-- The second octet keeps out overlong encodings and surrogates. -/
theorem awaits_three (hlow : 0x800 ≤ value) (hhigh : value < 0x10000)
    (hvalid : value < 0xD800 ∨ 0xDFFF < value) :
    ∃ pending, lead seen (UInt8.ofNat (value / 4096 % 0x10 + 0xE0)) = ⟨seen, some pending⟩ ∧
      Awaits pending value 1 := by
  rw [lead_ofNat (by omega), if_neg (by omega), if_neg (by omega)]
  by_cases hfirst : value < 0x1000
  · refine ⟨⟨2, 0, 0xA0, 0xBF⟩, by rw [if_pos (by omega)], rfl, ?_⟩
    simp only [Nat.reducePow, Nat.reduceAdd, UInt8.reduceToNat]
    omega
  rw [if_neg (by omega)]
  by_cases hsurrogates : 0xD000 ≤ value ∧ value < 0xE000
  · refine ⟨⟨2, 0xD, 0x80, 0x9F⟩, by rw [if_pos (by omega)], rfl, ?_⟩
    simp only [Nat.reducePow, Nat.reduceAdd, UInt8.reduceToNat]
    omega
  · refine ⟨⟨2, value / 4096 % 0x10 + 0xE0 - 0xE0, 0x80, 0xBF⟩, ?_, rfl, ?_⟩
    · rw [if_neg (by omega), if_pos (by omega)]
    · simp only [Nat.reducePow, Nat.reduceAdd, UInt8.reduceToNat]
      omega

/-- The second octet keeps out overlong encodings and values above the last character. -/
theorem awaits_four (hlow : 0x10000 ≤ value) (hhigh : value < 0x110000) :
    ∃ pending, lead seen (UInt8.ofNat (value / 262144 % 0x08 + 0xF0)) = ⟨seen, some pending⟩ ∧
      Awaits pending value 2 := by
  rw [lead_ofNat (by omega), if_neg (by omega), if_neg (by omega), if_neg (by omega),
    if_neg (by omega), if_neg (by omega)]
  by_cases hfirst : value < 0x40000
  · refine ⟨⟨3, 0, 0x90, 0xBF⟩, by rw [if_pos (by omega)], rfl, ?_⟩
    simp only [Nat.reducePow, Nat.reduceAdd, UInt8.reduceToNat]
    omega
  rw [if_neg (by omega)]
  by_cases hlast : 0x100000 ≤ value
  · refine ⟨⟨3, 4, 0x80, 0x8F⟩, by rw [if_pos (by omega)], rfl, ?_⟩
    simp only [Nat.reducePow, Nat.reduceAdd, UInt8.reduceToNat]
    omega
  · refine ⟨⟨3, value / 262144 % 0x08 + 0xF0 - 0xF0, 0x80, 0xBF⟩, ?_, rfl, ?_⟩
    · rw [if_neg (by omega), if_pos (by omega)]
    · simp only [Nat.reducePow, Nat.reduceAdd, UInt8.reduceToNat]
      omega

/-- A character is encoded by itself, or by a lead octet and its continuation. -/
theorem exists_lead (c : Char) :
    (∃ octet, String.utf8EncodeChar c = [octet] ∧ lead seen octet = ⟨c :: seen, none⟩) ∨
      ∃ octet due pending,
        String.utf8EncodeChar c = octet :: continuation c.toNat (due + 1) ∧
          lead seen octet = ⟨seen, some pending⟩ ∧ Awaits pending c.toNat due := by
  have hvalid : c.toNat < 0xD800 ∨ 0xDFFF < c.toNat ∧ c.toNat < 0x110000 := c.valid
  have hencode : String.utf8EncodeChar c =
      if c.toNat ≤ 0x7F then [UInt8.ofNat c.toNat]
      else if c.toNat ≤ 0x7FF then
        UInt8.ofNat (c.toNat / 64 % 0x20 + 0xC0) :: continuation c.toNat 1
      else if c.toNat ≤ 0xFFFF then
        UInt8.ofNat (c.toNat / 4096 % 0x10 + 0xE0) :: continuation c.toNat 2
      else UInt8.ofNat (c.toNat / 262144 % 0x08 + 0xF0) :: continuation c.toNat 3 := by
    simp [String.utf8EncodeChar, continuation]
  rw [hencode]
  split
  · refine .inl ⟨_, rfl, ?_⟩
    rw [lead_ofNat (by omega), if_pos (by omega), Char.ofNat_toNat]
  · refine .inr ?_
    split
    · have hlow : 0x80 ≤ c.toNat := by omega
      obtain ⟨pending, hlead, hawaits⟩ := awaits_two seen hlow (by omega)
      exact ⟨_, 0, pending, rfl, hlead, hawaits⟩
    · split
      · have hlow : 0x800 ≤ c.toNat := by omega
        obtain ⟨pending, hlead, hawaits⟩ := awaits_three seen hlow (by omega) (by omega)
        exact ⟨_, 1, pending, rfl, hlead, hawaits⟩
      · have hlow : 0x10000 ≤ c.toNat := by omega
        obtain ⟨pending, hlead, hawaits⟩ := awaits_four seen hlow (by omega)
        exact ⟨_, 2, pending, rfl, hlead, hawaits⟩

end Leads

section Continuations

variable {seen : List Char} {value due : Nat} {pending : Pending}

/-- The next octet that is due completes the character, or leaves one octet less due. -/
theorem step_awaited (h : Awaits pending value due) :
    step ⟨seen, some pending⟩ (UInt8.ofNat (value / 64 ^ due % 64 + 0x80)) =
      if due = 0 then ⟨Char.ofNat (value / 64 ^ due) :: seen, none⟩
      else ⟨seen, some ⟨due, value / 64 ^ due, 0x80, 0xBF⟩⟩ := by
  obtain ⟨hdue, hvalue, hlow, hhigh⟩ := h
  have hsmall : value / 64 ^ due % 64 + 0x80 < 256 := by omega
  have hoctet : (UInt8.ofNat (value / 64 ^ due % 64 + 0x80)).toNat =
      value / 64 ^ due % 64 + 0x80 := UInt8.toNat_ofNat_of_lt' hsmall
  have hbits : value / 64 ^ (due + 1) * 64 + (value / 64 ^ due % 64 + 0x80 - 0x80) =
      value / 64 ^ due := by
    rw [Nat.pow_succ, ← Nat.div_div_eq_div_mul]
    omega
  have hwithin : pending.low ≤ UInt8.ofNat (value / 64 ^ due % 64 + 0x80) ∧
      UInt8.ofNat (value / 64 ^ due % 64 + 0x80) ≤ pending.high := by
    rw [UInt8.le_iff_toNat_le, UInt8.le_iff_toNat_le, hoctet]
    exact ⟨hlow, hhigh⟩
  unfold step
  dsimp only
  rw [if_pos hwithin, hoctet, hvalue, hbits, hdue, Nat.add_sub_cancel]
  exact if_congr (by omega) rfl rfl

/-- Past the second octet of a character every continuation octet is within the bounds. -/
theorem awaits_next (value due : Nat) :
    Awaits ⟨due + 1, value / 64 ^ (due + 1), 0x80, 0xBF⟩ value due := by
  refine ⟨rfl, rfl, ?_⟩
  simp only [UInt8.reduceToNat]
  omega

/-- All octets that are due complete the character. -/
theorem foldl_continuation (h : Awaits pending value due) :
    (continuation value (due + 1)).foldl step ⟨seen, some pending⟩ =
      ⟨Char.ofNat value :: seen, none⟩ := by
  induction due generalizing pending with
  | zero =>
    rw [continuation, List.foldl_cons, step_awaited h, if_pos rfl, Nat.pow_zero, Nat.div_one]
    rfl
  | succ due ih =>
    rw [continuation, List.foldl_cons, step_awaited h, if_neg (Nat.succ_ne_zero due)]
    exact ih (awaits_next value due)

/-- Fewer octets than are due leave the character pending. -/
theorem foldl_take_continuation (h : Awaits pending value due) {count : Nat}
    (hcount : count ≤ due) :
    ∃ left, ((continuation value (due + 1)).take count).foldl step ⟨seen, some pending⟩ =
      ⟨seen, some left⟩ := by
  induction due generalizing pending count with
  | zero =>
    obtain rfl := Nat.le_zero.mp hcount
    exact ⟨pending, rfl⟩
  | succ due ih =>
    cases count with
    | zero => exact ⟨pending, rfl⟩
    | succ count =>
      rw [continuation, List.take_succ_cons, List.foldl_cons, step_awaited h,
        if_neg (Nat.succ_ne_zero due)]
      exact ih (awaits_next value due) (Nat.le_of_succ_le_succ hcount)

end Continuations

section Characters

variable (seen : List Char)

/-- The encoding of a character is read as that character. -/
theorem foldl_utf8EncodeChar (c : Char) :
    (String.utf8EncodeChar c).foldl step ⟨seen, none⟩ = ⟨c :: seen, none⟩ := by
  rcases exists_lead seen c with
    ⟨octet, hencode, hlead⟩ | ⟨octet, due, pending, hencode, hlead, hawaits⟩
  · rw [hencode]
    exact hlead
  · rw [hencode, List.foldl_cons, step, hlead, foldl_continuation hawaits, Char.ofNat_toNat]

/-- Some but not all octets of a character leave it pending. -/
theorem foldl_take_utf8EncodeChar (c : Char) {count : Nat} (hsome : 0 < count)
    (hfew : count < c.utf8Size) :
    ∃ pending, ((String.utf8EncodeChar c).take count).foldl step ⟨seen, none⟩ =
      ⟨seen, some pending⟩ := by
  rw [← String.length_utf8EncodeChar] at hfew
  obtain ⟨count, rfl⟩ := Nat.exists_eq_succ_of_ne_zero hsome.ne'
  rcases exists_lead seen c with
    ⟨octet, hencode, -⟩ | ⟨octet, due, pending, hencode, hlead, hawaits⟩
  · rw [hencode, List.length_singleton] at hfew
    omega
  · rw [hencode, List.length_cons, length_continuation] at hfew
    rw [hencode, List.take_succ_cons, List.foldl_cons, step, hlead]
    exact foldl_take_continuation hawaits (by omega)

/-- The encoding of a text is read as that text. -/
theorem foldl_flatMap_utf8EncodeChar (text : List Char) :
    (text.flatMap String.utf8EncodeChar).foldl step ⟨seen, none⟩ =
      ⟨text.reverse ++ seen, none⟩ := by
  induction text generalizing seen with
  | nil => rfl
  | cons c rest ih =>
    rw [List.flatMap_cons, List.foldl_append, foldl_utf8EncodeChar, ih, List.reverse_cons,
      List.append_assoc]
    rfl

end Characters

end Decoder

theorem length_flatMap_utf8EncodeChar (text : List Char) :
    (text.flatMap String.utf8EncodeChar).length = extent text := by
  induction text with
  | nil => rfl
  | cons c rest ih =>
    rw [List.flatMap_cons, List.length_append, String.length_utf8EncodeChar, ih, extent_cons]

/-- The octets of an array, in order. -/
theorem toList_eq_data_toList (bytes : ByteArray) : bytes.toList = bytes.data.toList := by
  have hloop (i : Nat) (read : List UInt8) :
      ByteArray.toList.loop bytes i read = read.reverse ++ bytes.data.toList.drop i := by
    fun_induction ByteArray.toList.loop bytes i read with
    | case1 i read h ih =>
      have hi : i < bytes.data.toList.length := by simpa using h
      rw [ih, List.drop_eq_getElem_cons hi]
      simp [ByteArray.get!, h]
    | case2 i read h =>
      rw [List.drop_eq_nil_of_le (by simpa using Nat.le_of_not_lt h), List.append_nil]
  exact hloop 0 []

end Shaderbox.Text
