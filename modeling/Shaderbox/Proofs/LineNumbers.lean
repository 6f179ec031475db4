import Shaderbox.Proofs.WalkRules

/-!
# Line numbers of expanded text

A compiler numbers the lines of an expanded text one after another, except that a marker gives the
line below it a number of its own. These numbers are compared with the places in the files that
copied lines come from.

At the top level the two agree on every copied line. In an included file they agree from its first
expanded directive on: the marker behind an expanded file restores the number, whatever the file
contains and however it ends, and the empty line that stays of the directive takes that number, so
that the line below gets the next one. A file with markers of its own may break this for its own
lines, but not for those of the files that include it.
-/

namespace Shaderbox

/-- How a line begins that a compiler may read as a marker. -/
def lineMark : List Char := "#line".toList

/-- The number in a marker: the digits behind the mark and a blank. -/
def markedNumber? (text : List Char) : Option Nat :=
  let digits := text.drop (lineMark.length + 1)
  if lineMark ++ [' '] <+: text ∧ digits ≠ [] ∧ digits.all Char.isDigit then
    some (Nat.ofDigitChars 10 digits 0)
  else none

/-- The number of the line below a line that has the given number. -/
def numberBelow (number : Nat) (text : List Char) : Nat :=
  (markedNumber? text).getD (number + 1)

/-- The numbers of lines, the first of which has the given one. -/
def lineNumbers : Nat → List (List Char) → List Nat
  | _, [] => []
  | number, text :: rest => number :: lineNumbers (numberBelow number text) rest

/-- Whether the file at `path`, if it can be read, has no line that begins like a marker. -/
def HasNoMarkers (files : Files) (config : ShaderConfig) (path : Path) : Prop :=
  ∀ source, loadSource files config.maxSourceSize path = .ok source →
    ∀ text ∈ linesOf source.text.toList, ¬ lineMark <+: text

/-- A line that does not begin like a marker does not change the count. -/
theorem numberBelow_of_not_mark {text : List Char} (h : ¬ lineMark <+: text) (number : Nat) :
    numberBelow number text = number + 1 := by
  have hnone : markedNumber? text = none := by
    refine if_neg fun hmarked => h ?_
    exact (List.prefix_append lineMark [' ']).trans hmarked.1
  rw [numberBelow, hnone, Option.getD_none]

/-- A marker is its mark, a blank and the digits of its number. -/
theorem markerText_eq (line : Nat) :
    markerText line = (lineMark ++ [' ']) ++ Nat.toDigits 10 line := by
  rw [markerText, String.toList_append, ← Nat.toList_repr]
  rfl

/-- A marker is read as the number that it was written with. -/
theorem numberBelow_markerText (number line : Nat) :
    numberBelow number (markerText line) = line := by
  have hdigits : (markerText line).drop (lineMark.length + 1) = Nat.toDigits 10 line := by
    rw [markerText_eq, show lineMark.length + 1 = (lineMark ++ [' ']).length from rfl,
      List.drop_left]
  have hmarked : markedNumber? (markerText line) = some line := by
    unfold markedNumber?
    rw [hdigits, if_pos, Nat.ofDigitChars_ten_toDigits]
    refine ⟨?_, Nat.toDigits_ne_nil, List.all_eq_true.mpr fun c hc => ?_⟩
    · rw [markerText_eq]
      exact List.prefix_append _ _
    · exact Nat.isDigit_of_mem_toDigits (by decide) (by decide) hc
  rw [numberBelow, hmarked, Option.getD_some]

/-- A marker holds no line feed. -/
theorem feed_not_mem_markerText (line : Nat) : '\n' ∉ markerText line := by
  rw [markerText_eq, List.mem_append, not_or]
  refine ⟨by decide, fun h => ?_⟩
  have hdigit := Nat.isDigit_of_mem_toDigits (by decide) (by decide) h
  exact absurd hdigit (by decide)

section Files

variable (files : Files) (config : ShaderConfig)

/-- Whether the lines are those of the file at `path` from the given number on. -/
def AreLinesFrom (path : Path) (line : Nat) (lines : List (List Char)) : Prop :=
  ∃ source before, loadSource files config.maxSourceSize path = .ok source ∧
    linesOf source.text.toList = before ++ lines ∧ line = before.length + 1

/-- Whether the text is the one of the given line of the file at `path`. -/
def IsLineOf (path : Path) (line : Nat) (text : List Char) : Prop :=
  ∃ source, loadSource files config.maxSourceSize path = .ok source ∧ 0 < line ∧
    (linesOf source.text.toList)[line - 1]? = some text

variable {files config} {path : Path} {line : Nat} {text : List Char} {rest : List (List Char)}

namespace AreLinesFrom

/-- A file that was read begins with its first line. -/
theorem whole {source : LoadedSource}
    (h : loadSource files config.maxSourceSize path = .ok source) :
    AreLinesFrom files config path 1 (linesOf source.text.toList) :=
  ⟨source, [], h, rfl, rfl⟩

theorem next (h : AreLinesFrom files config path line (text :: rest)) :
    AreLinesFrom files config path (line + 1) rest := by
  obtain ⟨source, before, hsource, hlines, rfl⟩ := h
  refine ⟨source, before ++ [text], hsource, ?_, ?_⟩
  · rw [hlines, List.append_assoc, List.singleton_append]
  · rw [List.length_append, List.length_singleton]

theorem head (h : AreLinesFrom files config path line (text :: rest)) :
    IsLineOf files config path line text := by
  obtain ⟨source, before, hsource, hlines, rfl⟩ := h
  refine ⟨source, hsource, Nat.succ_pos _, ?_⟩
  rw [hlines, Nat.add_sub_cancel, List.getElem?_append_right (le_refl _), Nat.sub_self,
    List.getElem?_cons_zero]

end AreLinesFrom

/-- A line of a file without markers is not one. -/
theorem IsLineOf.not_mark (h : IsLineOf files config path line text)
    (hmarkers : HasNoMarkers files config path) : ¬ lineMark <+: text := by
  obtain ⟨source, hsource, -, htext⟩ := h
  exact hmarkers source hsource text (List.mem_of_getElem? htext)

end Files

section Numbered

variable (files : Files) (config : ShaderConfig) (top : Path)

/-- The number that a line of a file has in the output is its number in the file, wherever that is
promised: at the top level and behind an expanded directive, in files without markers. -/
def InStep (depth : Nat) (path : Path) (line : Nat) (behind : Bool) (number : Nat) : Prop :=
  (depth = 0 ∨ behind = true) → HasNoMarkers files config path → number = line

/-- What a line of output says about where it was copied from is true, and its number is in step
with the number it has there. -/
def KeepsNumber (number : Nat) : OutputLine → Prop
  | .copied depth path line behind text =>
    IsLineOf files config path line text ∧ (depth = 0 → path = top) ∧
      InStep files config depth path line behind number
  | .marker _ => True
  | .blank => True

/-- All lines of output, the first of which has the given number, keep their numbers. -/
def KeepNumbers : Nat → List OutputLine → Prop
  | _, [] => True
  | number, line :: rest =>
    KeepsNumber files config top number line ∧ KeepNumbers (numberBelow number line.text) rest

variable {files config top} {depth line number : Nat} {path : Path} {behind : Bool}

/-- Below a line of the file the count stays in step. -/
theorem InStep.next {text : List Char} (h : InStep files config depth path line behind number)
    (htext : IsLineOf files config path line text) :
    InStep files config depth path (line + 1) behind (numberBelow number text) := by
  intro hplace hmarkers
  rw [numberBelow_of_not_mark (htext.not_mark hmarkers), h hplace hmarkers]

/-- Lines that are kept to the end of a file keep their numbers. -/
theorem keepNumbers_keptLines {lines : List (List Char)}
    (hlines : AreLinesFrom files config path line lines) (htop : depth = 0 → path = top)
    (hnumber : InStep files config depth path line behind number) :
    KeepNumbers files config top number (keptLines depth path behind line lines) := by
  induction lines generalizing line number with
  | nil => trivial
  | cons text rest ih =>
    exact ⟨⟨hlines.head, htop, hnumber⟩, ih hlines.next (hnumber.next hlines.head)⟩

/-- An expanded directive keeps the numbers: whatever the lines of the included file do to the
count, the marker and the empty line below it lead to the number of the next line. -/
theorem KeepNumbers.spliced {body output : List OutputLine} {rest : List (List Char)}
    (hbody : KeepNumbers files config top number body) (hlast : rest = [] → output = [])
    (houtput : KeepNumbers files config top (line + 1) output) :
    KeepNumbers files config top number
      (body ++ .marker line :: directiveRemnant rest ++ output) := by
  induction body generalizing number with
  | nil =>
    refine ⟨trivial, ?_⟩
    change KeepNumbers files config top (numberBelow number (markerText line)) _
    rw [numberBelow_markerText]
    cases rest with
    | nil =>
      rw [hlast rfl]
      trivial
    | cons text rest =>
      refine ⟨trivial, ?_⟩
      change KeepNumbers files config top (numberBelow line []) output
      rwa [numberBelow_of_not_mark (by decide)]
  | cons first body ih => exact ⟨hbody.1, ih hbody.2⟩

/-- The rules for lines keep the numbers of lines that begin in step. -/
theorem ExpandsLines.keepNumbers {lines : List (List Char)} {state final : ExpansionState}
    {output : List OutputLine}
    (h : ExpandsLines files config top depth path line behind lines state output final)
    (hlines : AreLinesFrom files config path line lines) (htop : depth = 0 → path = top)
    (hnumber : InStep files config depth path line behind number) :
    KeepNumbers files config top number output := by
  induction h generalizing number with
  | finished => trivial
  | plain _ _ ih =>
    exact ⟨⟨hlines.head, htop, hnumber⟩, ih hlines.next htop (hnumber.next hlines.head)⟩
  | malformed _ _ _ ih =>
    exact ⟨⟨hlines.head, htop, hnumber⟩, ih hlines.next htop (hnumber.next hlines.head)⟩
  | selfInclude => exact keepNumbers_keptLines hlines htop hnumber
  | refused _ _ _ _ _ ih =>
    exact ⟨⟨hlines.head, htop, hnumber⟩, ih hlines.next htop (hnumber.next hlines.head)⟩
  | missing _ _ _ _ _ tail ih =>
    have hblank : KeepNumbers files config top number [.blank] := ⟨trivial, trivial⟩
    exact hblank.spliced tail.eq_nil (ih hlines.next htop fun _ _ => rfl)
  | spliced _ _ _ _ loaded _ tail ihInner ihTail =>
    -- The first line of an included file may have any number, so nothing is promised about it.
    have hinner : KeepNumbers files config top number _ :=
      ihInner (.whole loaded) (fun hdepth => absurd hdepth (Nat.succ_ne_zero _))
        fun hplace => absurd hplace (by simp)
    exact hinner.spliced tail.eq_nil (ihTail hlines.next htop fun _ _ => rfl)

/-- The rules for a top-level file keep the numbers of its lines. -/
theorem ExpandsTop.keepNumbers {budget : Int} {output : List OutputLine} {final : ExpansionState}
    (h : ExpandsTop files config top budget output final) :
    KeepNumbers files config top 1 output := by
  cases h with
  | refused => exact ⟨trivial, trivial⟩
  | expanded _ file =>
    cases file with
    | missing => exact ⟨trivial, trivial⟩
    | loaded loaded lines =>
      exact lines.keepNumbers (.whole loaded) (fun _ => rfl) fun _ _ => rfl

/-- At every position of the output the number is kept. -/
theorem KeepNumbers.at {output : List OutputLine} (h : KeepNumbers files config top number output)
    {position : Nat} {label : OutputLine} (hlabel : output[position]? = some label) :
    ∃ found, (lineNumbers number (output.map OutputLine.text))[position]? = some found ∧
      KeepsNumber files config top found label := by
  induction output generalizing number position with
  | nil => simp at hlabel
  | cons first rest ih =>
    cases position with
    | zero =>
      obtain rfl : first = label := by simpa using hlabel
      exact ⟨number, rfl, h.1⟩
    | succ position => exact ih h.2 (by simpa using hlabel)

/-- A line of output is a single line. -/
theorem KeepsNumber.feed_not_mem {label : OutputLine}
    (h : KeepsNumber files config top number label) : '\n' ∉ label.text := by
  cases label with
  | copied depth path line behind text =>
    obtain ⟨⟨source, -, -, htext⟩, -⟩ := h
    exact feed_not_mem_of_mem_linesOf (List.mem_of_getElem? htext)
  | marker line => exact feed_not_mem_markerText line
  | blank => exact List.not_mem_nil

end Numbered

/-- Line markers keep the numbers of copied lines right. The lines of the expanded text, before any
cut, are the lines of output that the rules give. Each copied one is the line of its file that it
is said to be. If that file has no markers of its own and is the top-level one, or if the line
stands behind an expanded directive of its file, then the number that a compiler gives to the line
is its number in the file. -/
theorem walkFile_keeps_numbers (files : Files) (config : ShaderConfig) (top : Path)
    (budget : Int) :
    ∃ output final, ExpandsTop files config top budget output final ∧
      linesOf (walkFile files config top budget).text = output.map OutputLine.text ∧
      ∀ (position depth : Nat) (path : Path) (line : Nat) (behind : Bool) (text : List Char),
        output[position]? = some (.copied depth path line behind text) →
        IsLineOf files config path line text ∧ (depth = 0 → path = top) ∧
        (depth = 0 ∨ behind = true → HasNoMarkers files config path →
          (lineNumbers 1 (linesOf (walkFile files config top budget).text))[position]? =
            some line) := by
  obtain ⟨output, final, hrules, hwritten, -⟩ := walkFile_follows files config top budget
  have hnumbers := hrules.keepNumbers
  have hfeed : ∀ text ∈ output.map OutputLine.text, '\n' ∉ text := by
    intro text htext
    obtain ⟨label, hlabel, rfl⟩ := List.mem_map.mp htext
    obtain ⟨position, hposition⟩ := List.getElem?_of_mem hlabel
    obtain ⟨number, -, hkept⟩ := hnumbers.at hposition
    exact hkept.feed_not_mem
  have hlines : linesOf (walkFile files config top budget).text = output.map OutputLine.text := by
    rw [hwritten, linesOf_joinLines hfeed]
    exact fun hnil => hrules.ne_nil (List.map_eq_nil_iff.mp hnil)
  refine ⟨output, final, hrules, hlines, ?_⟩
  intro position depth path line behind text hlabel
  obtain ⟨number, hnumber, hline, htop, hstep⟩ := hnumbers.at hlabel
  refine ⟨hline, htop, fun hplace hmarkers => ?_⟩
  rw [hlines, hnumber, hstep hplace hmarkers]

end Shaderbox
