/-!
# Reading bytes as text

Bytes that are valid UTF-8 are read as they stand. Otherwise every maximal piece that cannot
begin or continue a character is replaced by one replacement character: a sequence that breaks
off counts as one piece, and the byte that broke it is read afresh.

The damaged case is a state machine over octets. Between characters nothing is pending; after a
lead byte the machine remembers how many octets are still due, the value so far and the range
that the next octet must lie in.
-/

namespace Shaderbox.Text

/-- What stands for a piece that is not valid UTF-8. -/
def replacement : Char := '\uFFFD'

/-- A character whose lead byte was read: octets still due, value so far, and the bounds of the next
octet. -/
structure Pending where
  due : Nat
  value : Nat
  low : UInt8
  high : UInt8
deriving DecidableEq

/-- The machine between two octets; the text read so far is kept in reverse. -/
structure Decoder where
  seen : List Char
  pending : Option Pending

namespace Decoder

/-- Nothing read yet. -/
def start : Decoder := ⟨[], none⟩

/-- Read an octet with nothing pending. Overlong leads, surrogates and values above the last
character are excluded through the bounds of the second octet. -/
def lead (seen : List Char) (octet : UInt8) : Decoder :=
  let value := octet.toNat
  if octet < 0x80 then ⟨Char.ofNat value :: seen, none⟩
  else if 0xC2 ≤ octet ∧ octet ≤ 0xDF then ⟨seen, some ⟨1, value - 0xC0, 0x80, 0xBF⟩⟩
  else if octet = 0xE0 then ⟨seen, some ⟨2, 0, 0xA0, 0xBF⟩⟩
  else if octet = 0xED then ⟨seen, some ⟨2, 0xD, 0x80, 0x9F⟩⟩
  else if 0xE1 ≤ octet ∧ octet ≤ 0xEF then ⟨seen, some ⟨2, value - 0xE0, 0x80, 0xBF⟩⟩
  else if octet = 0xF0 then ⟨seen, some ⟨3, 0, 0x90, 0xBF⟩⟩
  else if octet = 0xF4 then ⟨seen, some ⟨3, 4, 0x80, 0x8F⟩⟩
  else if 0xF1 ≤ octet ∧ octet ≤ 0xF3 then ⟨seen, some ⟨3, value - 0xF0, 0x80, 0xBF⟩⟩
  else ⟨replacement :: seen, none⟩

/-- Read one octet. One that cannot continue what is pending ends that piece and is read afresh. -/
def step (decoder : Decoder) (octet : UInt8) : Decoder :=
  match decoder.pending with
  | none => lead decoder.seen octet
  | some pending =>
    if pending.low ≤ octet ∧ octet ≤ pending.high then
      let value := pending.value * 64 + (octet.toNat - 0x80)
      if pending.due ≤ 1 then ⟨Char.ofNat value :: decoder.seen, none⟩
      else ⟨decoder.seen, some ⟨pending.due - 1, value, 0x80, 0xBF⟩⟩
    else lead (replacement :: decoder.seen) octet

/-- The text read, where a character that was cut off at the end counts as a damaged piece. -/
def finish (decoder : Decoder) : List Char :=
  match decoder.pending with
  | none => decoder.seen.reverse
  | some _ => (replacement :: decoder.seen).reverse

end Decoder

/-- Read damaged bytes, with a replacement character for every piece that is not valid. -/
def decodeDamaged (bytes : ByteArray) : String :=
  String.ofList (bytes.toList.foldl Decoder.step Decoder.start).finish

/-- Read bytes as text, and tell whether they were valid UTF-8. -/
def decode (bytes : ByteArray) : String × Bool :=
  match String.fromUTF8? bytes with
  | some text => (text, true)
  | none => (decodeDamaged bytes, false)

end Shaderbox.Text
