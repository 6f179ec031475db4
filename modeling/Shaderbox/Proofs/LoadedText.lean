import Shaderbox.Proofs.CleanExpansion
import Shaderbox.Proofs.OctetReading
import Shaderbox.Proofs.SourceCuts

/-!
# The text of a file that was loaded

The cap on sizes counts bytes and is applied before they are read as text. A file of valid text that
is no larger than the cap is read whole, and one that is cut between two characters is read up to
there. Where the cap falls inside a character, what is left of it comes to a replacement character:
the text that is read is then no beginning of the file's, or it is larger than the cap, and the file
is logged as damaged although it is not.
-/

namespace Shaderbox

namespace Text

section FirstBytes

variable {text : String} {limit : Nat}

/-- As many bytes of a text as one of its beginnings has are that beginning. -/
theorem extract_toUTF8_of_prefix {front : String} (h : front.toList <+: text.toList) :
    text.toUTF8.extract 0 front.utf8ByteSize = front.toUTF8 := by
  obtain ⟨back, hback⟩ := h
  have hbytes : text.toUTF8 = front.toUTF8 ++ back.utf8Encode := by
    change text.toByteArray = front.toByteArray ++ back.utf8Encode
    rw [← String.utf8Encode_toList, ← String.utf8Encode_toList, ← hback, List.utf8Encode_append]
  rw [hbytes]
  exact ByteArray.extract_append_eq_left rfl

/-- First bytes of a text that are valid on their own are one of its beginnings. -/
theorem exists_prefix_of_extract_valid (hlimit : limit ≤ text.utf8ByteSize)
    (h : (text.toUTF8.extract 0 limit).IsValidUTF8) :
    ∃ front : String, front.toList <+: text.toList ∧ front.utf8ByteSize = limit := by
  obtain ⟨front, hfront⟩ := h
  refine ⟨String.ofList front, ?_, ?_⟩
  · rw [String.toList_ofList]
    apply List.isPrefix_of_utf8Encode_append_eq_utf8Encode
      (text.toUTF8.extract limit text.toUTF8.size)
    have hsize : limit ≤ text.toUTF8.size := hlimit
    rw [← hfront, ← ByteArray.extract_eq_extract_append_extract _ (Nat.zero_le _) hsize,
      ByteArray.extract_zero_size, String.utf8Encode_toList]
    rfl
  · have hsize : (String.ofList front).utf8ByteSize = (text.toUTF8.extract 0 limit).size := by
      rw [hfront, ← String.toByteArray_ofList]
      rfl
    rw [hsize, ByteArray.size_extract]
    exact (Nat.sub_zero _).trans (Nat.min_eq_left hlimit)

/-- The first bytes of a text, one by one. -/
theorem toList_extract_toUTF8 :
    (text.toUTF8.extract 0 limit).toList =
      (text.toList.flatMap String.utf8EncodeChar).take limit := by
  have hbytes : text.toUTF8.data.toList = text.toList.flatMap String.utf8EncodeChar := by
    change text.toByteArray.data.toList = _
    rw [← String.utf8Encode_toList, List.utf8Encode, List.toList_data_toByteArray]
  rw [toList_eq_data_toList, ByteArray.data_extract, Array.toList_extract, hbytes]
  simp

end FirstBytes

end Text

/-- Whether a limit in bytes lies inside a character of a text: the text goes on beyond it, and no
beginning of the text ends there. -/
def CutsCharacter (limit : Nat) (text : String) : Prop :=
  limit < text.utf8ByteSize ∧
    ∀ front : String, front.toList <+: text.toList → front.utf8ByteSize ≠ limit

section Cutting

variable {limit : Nat} {text : String}

/-- The character that a limit lies in follows the longest beginning within the limit. -/
theorem CutsCharacter.exists_split (h : CutsCharacter limit text) :
    ∃ c back, (cutText limit text).toList ++ c :: back = text.toList ∧
      (cutText limit text).utf8ByteSize < limit ∧
      limit < (cutText limit text).utf8ByteSize + c.utf8Size := by
  have hlongest := IsLongestWithin.of_cutText limit text
  have hbelow : (cutText limit text).utf8ByteSize < limit :=
    Nat.lt_of_le_of_ne hlongest.fits (h.2 _ hlongest.begins)
  obtain ⟨back, hback⟩ := hlongest.begins
  cases back with
  | nil =>
    rw [List.append_nil] at hback
    rw [String.toList_injective hback] at hbelow
    exact absurd h.1 (Nat.not_lt.mpr hbelow.le)
  | cons c back =>
    refine ⟨c, back, hback, hbelow, Nat.lt_of_not_le fun hfits => ?_⟩
    -- one more character would still be within the limit
    have hsize : ((cutText limit text).push c).utf8ByteSize =
        (cutText limit text).utf8ByteSize + c.utf8Size := String.utf8ByteSize_push
    have hbegins : ((cutText limit text).push c).toList <+: text.toList := by
      rw [String.toList_push, ← hback]
      exact ⟨back, List.append_assoc _ _ _⟩
    have hlonger := hlongest.longest _ hbegins (hsize ▸ hfits)
    have hpositive := c.utf8Size_pos
    omega

/-- The first bytes of a text that is cut inside a character: the characters before that one, and
some of its octets. -/
theorem CutsCharacter.exists_octets (h : CutsCharacter limit text) :
    ∃ (c : Char) (count : Nat), 0 < count ∧ count < c.utf8Size ∧
      (text.toUTF8.extract 0 limit).toList =
        (cutText limit text).toList.flatMap String.utf8EncodeChar ++
          (String.utf8EncodeChar c).take count := by
  obtain ⟨c, back, hsplit, hbelow, habove⟩ := h.exists_split
  rw [utf8ByteSize_eq_extent] at hbelow habove
  refine ⟨c, limit - Text.extent (cutText limit text).toList, by omega, by omega, ?_⟩
  rw [Text.toList_extract_toUTF8, ← hsplit, List.flatMap_append, List.take_append,
    Text.length_flatMap_utf8EncodeChar, List.flatMap_cons, List.take_append_of_le_length,
    List.take_of_length_le]
  · rw [Text.length_flatMap_utf8EncodeChar]
    exact hbelow.le
  · rw [String.length_utf8EncodeChar]
    omega

/-- What is left of the character comes to a replacement character. -/
theorem CutsCharacter.decodeDamaged_extract (h : CutsCharacter limit text) :
    Text.decodeDamaged (text.toUTF8.extract 0 limit) =
      (cutText limit text).push Text.replacement := by
  obtain ⟨c, count, hsome, hfew, hoctets⟩ := h.exists_octets
  obtain ⟨pending, hpending⟩ := Text.Decoder.foldl_take_utf8EncodeChar
    ((cutText limit text).toList.reverse ++ []) c hsome hfew
  apply String.toList_injective
  rw [Text.decodeDamaged, hoctets, List.foldl_append, Text.Decoder.start,
    Text.Decoder.foldl_flatMap_utf8EncodeChar, hpending, String.toList_ofList, String.toList_push,
    Text.Decoder.finish]
  simp only [List.append_nil, List.reverse_cons, List.reverse_reverse]

/-- A text that is cut inside a character is read as a damaged one. -/
theorem CutsCharacter.decode_extract (h : CutsCharacter limit text) :
    Text.decode (text.toUTF8.extract 0 limit) =
      ((cutText limit text).push Text.replacement, false) := by
  have hdamaged : String.fromUTF8? (text.toUTF8.extract 0 limit) = none := by
    refine dif_neg fun hvalid => ?_
    obtain ⟨front, hbegins, hsize⟩ := Text.exists_prefix_of_extract_valid h.1.le hvalid
    exact h.2 front hbegins hsize
  rw [Text.decode, hdamaged, h.decodeDamaged_extract]

end Cutting

/-- Whether what was loaded is a beginning of the file's text within the cap, without a complaint
about it and without a claim to be more of it than it is. -/
structure LoadedSource.IsBeginningOf (cap : Nat) (path : Path) (text : String)
    (source : LoadedSource) : Prop where
  begins : source.text.toList <+: text.toList
  fits : source.text.utf8ByteSize ≤ cap
  silent : source.log? path = none
  complete_iff : source.complete = true ↔ source.text = text

section Loading

variable {files : Files} {cap : Nat} {path : Path} {text : String}

/-- A file that is larger than the cap is read up to the cap. -/
theorem loadSource_of_lt (hcap : cap < sizeMax) (hlarge : cap < text.utf8ByteSize)
    (hfile : files path = .file text.toUTF8) :
    loadSource files cap path =
      .ok ⟨(Text.decode (text.toUTF8.extract 0 cap)).1, false,
        (Text.decode (text.toUTF8.extract 0 cap)).2⟩ := by
  have hroom : ¬ sizeMax < cap + 1 := by omega
  have hcut : decide (text.toUTF8.size ≤ cap) = false := decide_eq_false (Nat.not_le.mpr hlarge)
  unfold loadSource
  simp only [hfile, hroom, if_false, hcut, Bool.false_eq_true]

/-- A file of valid text is loaded as a beginning of it exactly if the cap does not lie inside one
of its characters. Where it does, a replacement character stands for that one. -/
theorem loadSource_isBeginning_iff (hcap : cap < sizeMax) (hfile : files path = .file text.toUTF8) :
    ∃ source, loadSource files cap path = .ok source ∧
      (source.IsBeginningOf cap path text ↔ ¬ CutsCharacter cap text) ∧
      (CutsCharacter cap text →
        source = ⟨(cutText cap text).push Text.replacement, false, false⟩) := by
  by_cases hcuts : CutsCharacter cap text
  · refine ⟨_, loadSource_of_lt hcap hcuts.1 hfile, ⟨fun h => ?_, fun h => absurd hcuts h⟩,
      fun _ => by rw [hcuts.decode_extract]⟩
    have hsilent := h.silent
    rw [hcuts.decode_extract] at hsilent
    contradiction
  rcases Nat.lt_or_ge cap text.utf8ByteSize with hlarge | hfits
  · -- the cap ends one of the beginnings, which is then what is read
    obtain ⟨front, hbegins, rfl⟩ :
        ∃ front : String, front.toList <+: text.toList ∧ front.utf8ByteSize = cap := by
      by_contra hnone
      exact hcuts ⟨hlarge, fun front hbegins hsize => hnone ⟨front, hbegins, hsize⟩⟩
    refine ⟨⟨front, false, true⟩, ?_, iff_of_true ⟨hbegins, le_refl _, rfl, ?_⟩ hcuts,
      fun h => absurd h hcuts⟩
    · rw [loadSource_of_lt hcap hlarge hfile, Text.extract_toUTF8_of_prefix hbegins,
        Text.decode_toUTF8]
    · exact iff_of_false Bool.false_ne_true fun hwhole => hlarge.ne (congrArg _ hwhole)
  · exact ⟨⟨text, true, true⟩, loadSource_toUTF8 hcap hfits hfile,
      iff_of_true ⟨List.prefix_refl _, hfits, rfl, iff_of_true rfl rfl⟩ hcuts,
      fun h => absurd h hcuts⟩

/-- A cap of one byte lies inside an accented letter, and of a file that holds only that letter a
replacement character is read. -/
theorem loadSource_accented_letter :
    ∃ source, loadSource (fun _ => .file "é".toUTF8) 1 ⟨"a.glsl"⟩ = .ok source ∧
      source = ⟨"\uFFFD", false, false⟩ ∧ ¬ source.IsBeginningOf 1 ⟨"a.glsl"⟩ "é" := by
  have hcuts : CutsCharacter 1 "é" := by
    refine ⟨by decide, fun front hbegins => ?_⟩
    rw [utf8ByteSize_eq_extent]
    rcases List.prefix_cons_iff.mp hbegins with hnone | ⟨rest, hwhole, hrest⟩
    · rw [hnone]
      decide
    · rw [hwhole, List.prefix_nil.mp hrest]
      decide
  obtain ⟨source, hloaded, hbeginning, hread⟩ :=
    @loadSource_isBeginning_iff (fun _ => .file "é".toUTF8) 1 ⟨"a.glsl"⟩ "é" (by decide) rfl
  exact ⟨source, hloaded, hread hcuts, fun h => hbeginning.mp h hcuts⟩

end Loading

end Shaderbox
