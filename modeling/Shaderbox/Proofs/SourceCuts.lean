import Shaderbox.Proofs.ReportFlags
import Shaderbox.Proofs.WalkRules

/-!
# Cuts of a source

An expanded source is cut twice: at the greatest source size, and at the capacity of the buffer that
it is put into. Each cut keeps the longest beginning of the text that fits, and there is only one. Of
two beginnings of a text the shorter is a beginning of the longer, so a cut of a cut is the cut at
the smaller of the two limits, although the first may fall short of its limit by part of a character.

What a buffer held before is lost when it is filled, so only its capacity matters.
-/

namespace Shaderbox

namespace Text

/-- A beginning of a text is no larger than the text. -/
theorem extent_le_of_prefix {front text : List Char} (h : front <+: text) :
    extent front ≤ extent text := by
  obtain ⟨back, rfl⟩ := h
  rw [extent_append]
  exact Nat.le_add_right _ _

/-- A beginning that is as large as the text is all of it. -/
theorem eq_of_prefix_of_extent_le {front text : List Char} (h : front <+: text)
    (hsize : extent text ≤ extent front) : front = text := by
  obtain ⟨back, rfl⟩ := h
  cases back with
  | nil => rw [List.append_nil]
  | cons c rest =>
    have hpositive : 0 < c.utf8Size := c.utf8Size_pos
    rw [extent_append, extent_cons] at hsize
    omega

/-- A beginning of a text that fits is a beginning of what is kept of it. -/
theorem prefix_prefixWithin {limit : Nat} {front text : List Char} (h : front <+: text)
    (hfits : extent front ≤ limit) : front <+: prefixWithin limit text := by
  induction text generalizing limit front with
  | nil => rwa [prefixWithin_nil]
  | cons c rest ih =>
    cases front with
    | nil => exact List.nil_prefix
    | cons d front =>
      obtain ⟨rfl, hrest⟩ := List.cons_prefix_cons.mp h
      rw [extent_cons] at hfits
      rw [prefixWithin_cons, if_pos (by omega)]
      exact List.cons_prefix_cons.mpr ⟨rfl, ih hrest (by omega)⟩

end Text

/-- The longest beginning of a text that has at most `limit` bytes. -/
structure IsLongestWithin (limit : Nat) (text cut : String) : Prop where
  begins : cut.toList <+: text.toList
  fits : cut.utf8ByteSize ≤ limit
  longest : ∀ other : String, other.toList <+: text.toList → other.utf8ByteSize ≤ limit →
    other.utf8ByteSize ≤ cut.utf8ByteSize

section Longest

theorem utf8ByteSize_eq_extent (text : String) :
    text.utf8ByteSize = Text.extent text.toList := by
  rw [← Text.utf8ByteSize_ofList, String.ofList_toList]

/-- Of two beginnings of a text the smaller is a beginning of the other. -/
theorem prefix_of_utf8ByteSize_le {text first second : String} (hfirst : first.toList <+: text.toList)
    (hsecond : second.toList <+: text.toList) (h : first.utf8ByteSize ≤ second.utf8ByteSize) :
    first.toList <+: second.toList := by
  rcases List.prefix_or_prefix_of_prefix hfirst hsecond with hbegins | hbegins
  · exact hbegins
  · rw [utf8ByteSize_eq_extent, utf8ByteSize_eq_extent] at h
    rw [Text.eq_of_prefix_of_extent_le hbegins h]

namespace IsLongestWithin

variable {limit inner : Nat} {text cut : String}

/-- There is only one longest beginning. -/
theorem unique {other : String} (h : IsLongestWithin limit text cut)
    (hother : IsLongestWithin limit text other) : cut = other := by
  have hsmaller := prefix_of_utf8ByteSize_le h.begins hother.begins
    (hother.longest cut h.begins h.fits)
  have hlarger := h.longest other hother.begins hother.fits
  rw [utf8ByteSize_eq_extent, utf8ByteSize_eq_extent] at hlarger
  exact String.toList_injective (Text.eq_of_prefix_of_extent_le hsmaller hlarger)

/-- A text that fits is its own longest beginning. -/
theorem of_le (h : text.utf8ByteSize ≤ limit) : IsLongestWithin limit text text where
  begins := List.prefix_refl _
  fits := h
  longest := by
    intro other hbegins _
    rw [utf8ByteSize_eq_extent, utf8ByteSize_eq_extent]
    exact Text.extent_le_of_prefix hbegins

theorem of_cutText (limit : Nat) (text : String) :
    IsLongestWithin limit text (cutText limit text) where
  begins := by
    rw [cutText, String.toList_ofList]
    exact List.take_prefix _ _
  fits := by
    rw [cutText, Text.utf8ByteSize_ofList]
    exact Text.extent_prefixWithin_le limit _
  longest := by
    intro other hbegins hfits
    rw [utf8ByteSize_eq_extent] at hfits ⊢
    rw [cutText, Text.utf8ByteSize_ofList]
    exact Text.extent_le_of_prefix (Text.prefix_prefixWithin hbegins hfits)

/-- The longest beginning of a longest beginning is one within the smaller limit. -/
theorem trans {last : String} (houter : IsLongestWithin limit text cut)
    (hinner : IsLongestWithin inner cut last) : IsLongestWithin (min limit inner) text last where
  begins := hinner.begins.trans houter.begins
  fits := by
    have hsize := Text.extent_le_of_prefix hinner.begins
    rw [← utf8ByteSize_eq_extent, ← utf8ByteSize_eq_extent] at hsize
    exact le_min (hsize.trans houter.fits) hinner.fits
  longest := by
    intro other hbegins hfits
    have hcut : other.utf8ByteSize ≤ cut.utf8ByteSize :=
      houter.longest other hbegins (hfits.trans (min_le_left _ _))
    exact hinner.longest other (prefix_of_utf8ByteSize_le hbegins houter.begins hcut)
      (hfits.trans (min_le_right _ _))

end IsLongestWithin

/-- A buffer keeps as much of a text as it can hold. -/
theorem SourceBuffer.isLongestWithin_replace (buffer : SourceBuffer) (text : String) :
    IsLongestWithin buffer.capacity text (buffer.replace text).text := by
  unfold replace
  dsimp only
  split
  · exact .of_cutText _ _
  · rename_i hfits
    refine .of_le (Nat.le_of_not_lt fun hlong => hfits ?_)
    exact decide_eq_true hlong

end Longest

/-- The expansion of a file before any cut. -/
def uncapped (files : Files) (config : ShaderConfig) (path : Path) : Expansion :=
  .ofWalk path (walkFile files config path config.includeBudget)

/-- What is reported about a text that is cut at a limit. -/
def cutFindings (path : Path) (limit : Nat) (text : String) : List Finding :=
  if limit < text.utf8ByteSize then [.outputTruncated path limit] else []

namespace Expansion

variable (path : Path) (limit : Nat) (message : String) (expansion : Expansion)

theorem isLongestWithin_cut :
    IsLongestWithin limit expansion.text (expansion.cut path limit message).text := by
  unfold cut
  split
  · rename_i hfits
    exact .of_le hfits
  · exact .of_cutText _ _

theorem findings_cut :
    (expansion.cut path limit message).report.findings =
      expansion.report.findings ++ cutFindings path limit expansion.text := by
  unfold cut cutFindings
  split
  · rename_i hfits
    rw [if_neg (Nat.not_lt.mpr hfits), List.append_nil]
  · rename_i hlong
    rw [if_pos (Nat.lt_of_not_le hlong)]

end Expansion

/-- A file as it is expanded into a buffer of some capacity. -/
def expandedWithin (files : Files) (config : ShaderConfig) (capacity : Nat) (path : Path) :
    Expansion :=
  ((uncapped files config path).capped path config.maxSourceSize).cut path capacity
    s!"expanded source of \"{path.text}\" exceeds the {capacity} byte buffer; truncated"

section Expanding

variable (files : Files) {config : ShaderConfig} (hsize : config.maxSourceSize < sizeMax)
  (path : Path)

include hsize

theorem expand_eq :
    expand files config path =
      .ok ((uncapped files config path).capped path config.maxSourceSize) :=
  expandBounded_eq hsize config.includeBudget

/-- What a file is expanded to depends on the buffer only through its capacity. -/
theorem expandInto_eq (buffer : SourceBuffer) :
    expandInto files config path buffer =
      .ok (⟨(expandedWithin files config buffer.capacity path).text, buffer.capacity⟩,
        expandedWithin files config buffer.capacity path) := by
  have htext := (buffer.isLongestWithin_replace
    ((uncapped files config path).capped path config.maxSourceSize).text).unique
      (Expansion.isLongestWithin_cut path buffer.capacity
        s!"expanded source of \"{path.text}\" exceeds the {buffer.capacity} byte buffer; truncated" _)
  unfold expandInto
  rw [expand_eq files hsize path]
  change Except.ok (SourceBuffer.mk (buffer.replace _).text buffer.capacity, _) = _
  rw [htext]
  rfl

end Expanding

section Uses

/-- What can be done with a buffer. -/
inductive BufferUse where
  | replace (text : String)
  | clear
  | expand (files : Files) (config : ShaderConfig) (path : Path)

namespace BufferUse

/-- Carry out a use of a buffer, and see what becomes of it. -/
def perform (buffer : SourceBuffer) : BufferUse → Except Abort SourceBuffer
  | replace text => .ok (buffer.replace text)
  | clear => .ok buffer.clear
  | expand files config path => do return (← expandInto files config path buffer).1

/-- Whether the cap on sizes leaves room for one more byte, where there is a cap. -/
def HasRoom : BufferUse → Prop
  | expand _ config _ => config.maxSourceSize < sizeMax
  | _ => True

/-- Carry out uses of a buffer in order. -/
def performAll (uses : List BufferUse) (buffer : SourceBuffer) : Except Abort SourceBuffer :=
  uses.foldlM perform buffer

end BufferUse

/-- Whether a buffer holds no more than it can. -/
def SourceBuffer.IsBounded (buffer : SourceBuffer) : Prop :=
  buffer.text.utf8ByteSize ≤ buffer.capacity

/-- Each use of a buffer keeps its capacity and leaves no more in it than it can hold. -/
theorem BufferUse.perform_bounded {use : BufferUse} (hroom : use.HasRoom) (buffer : SourceBuffer) :
    ∃ next, use.perform buffer = .ok next ∧ next.capacity = buffer.capacity ∧ next.IsBounded := by
  cases use with
  | replace text => exact ⟨_, rfl, rfl, (buffer.isLongestWithin_replace text).fits⟩
  | clear => exact ⟨_, rfl, rfl, Nat.zero_le _⟩
  | expand files config path =>
    rw [perform, expandInto_eq files hroom path buffer]
    exact ⟨_, rfl, rfl, (Expansion.isLongestWithin_cut _ _ _ _).fits⟩

/-- Any sequence of uses keeps the capacity of a buffer and leaves no more in it than it can hold. -/
theorem BufferUse.performAll_bounded {uses : List BufferUse} (hroom : ∀ use ∈ uses, use.HasRoom)
    {buffer : SourceBuffer} (hbounded : buffer.IsBounded) :
    ∃ last, performAll uses buffer = .ok last ∧ last.capacity = buffer.capacity ∧
      last.IsBounded := by
  induction uses generalizing buffer with
  | nil => exact ⟨buffer, rfl, rfl, hbounded⟩
  | cons use rest ih =>
    obtain ⟨huse, hrest⟩ := List.forall_mem_cons.mp hroom
    obtain ⟨next, hnext, hcapacity, hbounded⟩ := perform_bounded huse buffer
    obtain ⟨last, hlast, hkept, hheld⟩ := ih hrest hbounded
    refine ⟨last, ?_, hkept.trans hcapacity, hheld⟩
    rw [performAll, List.foldlM_cons, hnext]
    exact hlast

/-- A new buffer is empty. -/
theorem SourceBuffer.eq_of_withCapacity {capacity : Nat} {buffer : SourceBuffer}
    (h : withCapacity capacity = .ok buffer) : buffer = ⟨"", capacity⟩ := by
  unfold withCapacity at h
  split at h
  · exact (Except.ok.inj h).symm
  · contradiction

end Uses

end Shaderbox
